import TrafficCapture.Json.Reader
import TrafficCapture.Json.Skip

/-! Records from JSON. A record is an object with a member for each field, in any order, or a list
of the fields in their own order. -/

namespace TrafficCapture.Json

/-- Passes one value of any type. -/
def skip : Reader Unit := fun limits cs => do
  return ((), ← skipValue (3 * limits.steps + 3) [] cs)

/-- Whether a field may be missing: never, in an object only, or also at the end of a list. -/
inductive Presence where
  | required
  | optional
  | defaulted
  deriving DecidableEq, Repr

/-- A named field of a record, and how a value of it is read into the record. -/
structure Field (α : Type) where
  name : String
  presence : Presence
  update : Reader (α → α)

/-- A field that has to be there. -/
def Field.required {α β : Type} (name : String) (r : Reader β) (put : β → α → α) : Field α :=
  ⟨name, .required, Reader.map put r⟩

/-- A field that is absent when an object leaves it out. -/
def Field.optional {α β : Type} (name : String) (r : Reader β) (put : Option β → α → α) : Field α :=
  ⟨name, .optional, Reader.map put (readOption r)⟩

/-- A field that is absent when an object or the end of a list leaves it out. -/
def Field.defaulted {α β : Type} (name : String) (r : Reader β) (put : Option β → α → α) :
    Field α :=
  ⟨name, .defaulted, Reader.map put (readOption r)⟩

/-- Reads the fields of a record in their order. -/
def readInOrder {α : Type} (limits : Limits) :
    List (Field α) → Bool → α → List Char → Except Fault (α × List Char)
  | [], _, record, cs => .ok (record, cs)
  | field :: fields, first, record, cs => do
    match ← nextItem? first cs with
    | some cs =>
      let (put, rest) ← field.update limits cs
      readInOrder limits fields false (put record) rest
    | none =>
      if field.presence = .defaulted then readInOrder limits fields first record cs
      else throw .unsuitable

/-- Reads the fields of a record by name, in any order. A name that is no field's is passed over,
and none may come twice. -/
def readByName {α : Type} (limits : Limits) (fields : List (Field α)) :
    Nat → List String → Bool → α → List Char → Except Fault (α × List Char)
  | 0, _, _, _, _ => .error .malformed
  | steps + 1, seen, first, record, cs => do
    match ← nextName? first cs with
    | none =>
      if fields.all fun f => f.presence != .required || seen.contains f.name then
        return (record, ← endObject cs)
      else throw .unsuitable
    | some cs =>
      let (name, rest) ← readTextBody cs
      match fields.find? (·.name == name) with
      | none =>
        let (_, rest) ← skip limits (← readColon rest)
        readByName limits fields steps seen false record rest
      | some field =>
        if seen.contains name then throw .unsuitable
        let (put, rest) ← field.update limits (← readColon rest)
        readByName limits fields steps (name :: seen) false (put record) rest

/-- Reads a record from an object, or from a list of its fields in order. Fields that are left out
keep their value from `blank`. -/
def readRecord {α : Type} (blank : α) (fields : List (Field α)) : Reader α := fun limits cs =>
  match skipBlanks cs with
  | [] => .error .truncated
  | '[' :: rest => do
    let inner ← limits.enter
    let (record, rest) ← readInOrder inner fields true blank rest
    return (record, ← endList rest)
  | c :: rest =>
    if c == Char.ofNat 0x7B then do
      let inner ← limits.enter
      readByName inner fields limits.steps [] true blank rest
    else .error (mismatch (c :: rest))

end TrafficCapture.Json
