import TrafficCapture.Json.Number
import TrafficCapture.Json.Quoted
import TrafficCapture.Json.Value

/-! Typed reading of JSON. A text is read once from left to right, by a reader of the type that is
asked for, and the first fault that is met decides: the text may be no JSON, may describe no value
of the type, or may end early. -/

namespace TrafficCapture.Json

/-- How many more levels of nesting are allowed, and a bound on the items of one container; the
length of the whole text is one. -/
structure Limits where
  depth : Nat
  steps : Nat

/-- Reads a value off the front of a text. -/
abbrev Reader (α : Type) := Limits → List Char → Except Fault (α × List Char)

/-- Levels of nesting that a text may have, less one. -/
def maxDepth : Nat := 128

/-- The fault of a value of another type than the one asked for. A fault inside a word, a number or
a string comes first; a container is not looked into. -/
def mismatch (cs : List Char) : Fault :=
  let inside {α : Type} (result : Except Fault α) : Fault :=
    match result with
    | .ok _ => .unsuitable
    | .error f => f
  match cs with
  | [] => .truncated
  | 'n' :: rest => inside (expect "ull".toList rest)
  | 't' :: rest => inside (expect "rue".toList rest)
  | 'f' :: rest => inside (expect "alse".toList rest)
  | '-' :: rest => inside (readNumberBody true rest)
  | '"' :: rest => inside (readTextBody rest)
  | '[' :: _ => .unsuitable
  | c :: rest =>
    if c == Char.ofNat 0x7B then .unsuitable
    else if c.isDigit then inside (readNumberBody false (c :: rest))
    else .malformed

def readText : Reader String := fun _ cs =>
  match skipBlanks cs with
  | '"' :: rest => readTextBody rest
  | cs => .error (mismatch cs)

def readBool : Reader Bool := fun _ cs =>
  match skipBlanks cs with
  | 't' :: rest => do return (true, ← expect "rue".toList rest)
  | 'f' :: rest => do return (false, ← expect "alse".toList rest)
  | cs => .error (mismatch cs)

def readNull : Reader Unit := fun _ cs =>
  match skipBlanks cs with
  | 'n' :: rest => do return ((), ← expect "ull".toList rest)
  | cs => .error (mismatch cs)

/-- Reads an integer between `least` and `greatest`. -/
def readInteger (least greatest : Int) : Reader Int := fun _ cs =>
  let within (result : Number × List Char) : Except Fault (Int × List Char) :=
    match result with
    | (.whole n, rest) => if least ≤ n ∧ n ≤ greatest then .ok (n, rest) else .error .unsuitable
    | (.other _ _, _) => .error .unsuitable
  match skipBlanks cs with
  | [] => .error .truncated
  | '-' :: rest => do within (← readNumberBody true rest)
  | c :: rest =>
    if c.isDigit then do within (← readNumberBody false (c :: rest))
    else .error (mismatch (c :: rest))

/-- Changes what a reader yields. -/
def Reader.map {α β : Type} (f : α → β) (r : Reader α) : Reader β := fun limits cs => do
  let (a, rest) ← r limits cs
  return (f a, rest)

def readWord8 : Reader UInt8 := Reader.map (fun n => UInt8.ofNat n.toNat) (readInteger 0 0xFF)
def readWord16 : Reader UInt16 := Reader.map (fun n => UInt16.ofNat n.toNat) (readInteger 0 0xFFFF)
def readWord32 : Reader UInt32 :=
  Reader.map (fun n => UInt32.ofNat n.toNat) (readInteger 0 0xFFFFFFFF)
def readWord64 : Reader UInt64 :=
  Reader.map (fun n => UInt64.ofNat n.toNat) (readInteger 0 0xFFFFFFFFFFFFFFFF)
def readSigned64 : Reader Int64 :=
  Reader.map Int64.ofInt (readInteger (-0x8000000000000000) 0x7FFFFFFFFFFFFFFF)

/-- Reads `null` as absence. -/
def readOption {α : Type} (r : Reader α) : Reader (Option α) := fun limits cs =>
  match skipBlanks cs with
  | 'n' :: rest => do return (none, ← expect "ull".toList rest)
  | cs => Reader.map some r limits cs

/-- Enters a container, unless it lies too deep. -/
def Limits.enter (limits : Limits) : Except Fault Limits :=
  if limits.depth ≤ 1 then .error .malformed else .ok { limits with depth := limits.depth - 1 }

/-- Looks for another item of a list: behind a comma, or at once when it is the first. -/
def nextItem? (first : Bool) (cs : List Char) : Except Fault (Option (List Char)) :=
  match skipBlanks cs with
  | [] => .error .truncated
  | ']' :: _ => .ok none
  | c :: rest =>
    if first then .ok (some (c :: rest))
    else if c == ',' then
      match skipBlanks rest with
      | [] => .error .truncated
      | ']' :: _ => .error .malformed
      | rest => .ok (some rest)
    else .error .malformed

/-- Reads the end of a list. -/
def endList (cs : List Char) : Except Fault (List Char) :=
  match skipBlanks cs with
  | [] => .error .truncated
  | ']' :: rest => .ok rest
  | _ => .error .malformed

/-- Looks for another member of an object and enters its name. -/
def nextName? (first : Bool) (cs : List Char) : Except Fault (Option (List Char)) :=
  match skipBlanks cs with
  | [] => .error .truncated
  | c :: rest =>
    if c == Char.ofNat 0x7D then .ok none
    else if first then if c == '"' then .ok (some rest) else .error .malformed
    else if c == ',' then
      match skipBlanks rest with
      | [] => .error .truncated
      | '"' :: rest => .ok (some rest)
      | _ => .error .malformed
    else .error .malformed

/-- Reads the end of an object. -/
def endObject (cs : List Char) : Except Fault (List Char) :=
  match skipBlanks cs with
  | [] => .error .truncated
  | c :: rest => if c == Char.ofNat 0x7D then .ok rest else .error .malformed

/-- Reads the colon between a name and its value. -/
def readColon (cs : List Char) : Except Fault (List Char) :=
  match skipBlanks cs with
  | [] => .error .truncated
  | ':' :: rest => .ok rest
  | _ => .error .malformed

/-- Reads items up to the end of a list, onto those read so far, last first. -/
def readItems {α : Type} (item : List Char → Except Fault (α × List Char)) :
    Nat → List α → List Char → Except Fault (List α × List Char)
  | 0, _, _ => .error .malformed
  | steps + 1, done, cs => do
    match ← nextItem? done.isEmpty cs with
    | none => return (done.reverse, ← endList cs)
    | some cs =>
      let (a, rest) ← item cs
      readItems item steps (a :: done) rest

def readList {α : Type} (item : Reader α) : Reader (List α) := fun limits cs =>
  match skipBlanks cs with
  | '[' :: rest => do
    let inner ← limits.enter
    readItems (item inner) limits.steps [] rest
  | cs => .error (mismatch cs)

/-- Reads a list of exactly two items. -/
def readPair {α β : Type} (left : Reader α) (right : Reader β) : Reader (α × β) := fun limits cs =>
  match skipBlanks cs with
  | '[' :: rest => do
    let inner ← limits.enter
    let some cs ← nextItem? true rest | throw .unsuitable
    let (a, rest) ← left inner cs
    let some cs ← nextItem? false rest | throw .unsuitable
    let (b, rest) ← right inner cs
    return ((a, b), ← endList rest)
  | cs => .error (mismatch cs)

/-- Gives a name its value; of equal names the last one counts. -/
def setMember {α : Type} (name : String) (value : α) (members : List (String × α)) :
    List (String × α) :=
  if members.any (·.1 == name) then
    members.map fun m => if m.1 == name then (name, value) else m
  else members ++ [(name, value)]

/-- Reads members of one type up to the end of an object. -/
def readMembers {α : Type} (value : List Char → Except Fault (α × List Char)) :
    Nat → Bool → List (String × α) → List Char → Except Fault (List (String × α) × List Char)
  | 0, _, _, _ => .error .malformed
  | steps + 1, first, done, cs => do
    match ← nextName? first cs with
    | none => return (done, ← endObject cs)
    | some cs =>
      let (name, rest) ← readTextBody cs
      let (a, rest) ← value (← readColon rest)
      readMembers value steps false (setMember name a done) rest

/-- Reads an object whose members all have one type. -/
def readMap {α : Type} (value : Reader α) : Reader (List (String × α)) := fun limits cs =>
  match skipBlanks cs with
  | c :: rest =>
    if c == Char.ofNat 0x7B then do
      let inner ← limits.enter
      readMembers (value inner) limits.steps true [] rest
    else .error (mismatch (c :: rest))
  | [] => .error .truncated

/-- Reads a value of any type with at most `depth` levels of nesting, less one. -/
def readAnyAt (steps : Nat) : Nat → List Char → Except Fault (Json × List Char)
  | 0, _ => .error .malformed
  | depth + 1, cs =>
    let number (result : Number × List Char) : Json × List Char :=
      match result with
      | (.whole n, rest) => (.int n, rest)
      | (.other n e, rest) => (.decimal n e, rest)
    match skipBlanks cs with
    | [] => .error .truncated
    | 'n' :: rest => do return (.null, ← expect "ull".toList rest)
    | 't' :: rest => do return (.bool true, ← expect "rue".toList rest)
    | 'f' :: rest => do return (.bool false, ← expect "alse".toList rest)
    | '-' :: rest => (readNumberBody true rest).map number
    | '"' :: rest => (readTextBody rest).map fun (s, rest) => (.text s, rest)
    | '[' :: rest =>
      if depth = 0 then .error .malformed
      else (readItems (readAnyAt steps depth) steps [] rest).map fun (items, rest) =>
        (.list items, rest)
    | c :: rest =>
      if c == Char.ofNat 0x7B then
        if depth = 0 then .error .malformed
        else (readMembers (readAnyAt steps depth) steps true [] rest).map fun (members, rest) =>
          (.object members, rest)
      else if c.isDigit then (readNumberBody false (c :: rest)).map number
      else .error .malformed

def readAny : Reader Json := fun limits cs => readAnyAt limits.steps limits.depth cs

/-- Reads one of the given names, alone or as the name of an object's only member, whose value is
then `null`. -/
def readTag {α : Type} (tags : List (String × α)) : Reader α := fun limits cs =>
  let named (result : String × List Char) : Except Fault (α × List Char) :=
    match tags.lookup result.1 with
    | some a => .ok (a, result.2)
    | none => .error .unsuitable
  match skipBlanks cs with
  | [] => .error .truncated
  | '"' :: rest => do named (← readTextBody rest)
  | c :: rest =>
    if c == Char.ofNat 0x7B then do
      let inner ← limits.enter
      let (a, rest) ← named (← readText inner rest)
      let (_, rest) ← readNull inner (← readColon rest)
      return (a, ← endObject rest)
    else .error .malformed

/-- Reads a whole text as one value. -/
def Reader.run {α : Type} (r : Reader α) (text : String) : Except Fault α := do
  let cs := text.toList
  let (a, rest) ← r ⟨maxDepth, cs.length + 1⟩ cs
  if (skipBlanks rest).isEmpty then return a else throw .malformed

end TrafficCapture.Json
