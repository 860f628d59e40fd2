import TrafficCapture.Pattern.Ast
import TrafficCapture.Pattern.Reader
import TrafficCapture.Text.Ascii

/-! What a backslash introduces. -/

namespace TrafficCapture.Pattern

open Reader

/-- Whether a backslash makes a punctuation character stand for itself. -/
def isEscapeable (c : Char) : Bool :=
  c.toNat < 0x80 && !c.isAlphanum && c != '<' && c != '>'

/-- The character with that code point, unless it is beyond all or one half of a pair. -/
def scalar? (n : Nat) : Option Char :=
  if n < 0xD800 || (0xE000 ≤ n && n ≤ 0x10FFFF) then some (Char.ofNat n) else none

/-- Reads a fixed number of hexadecimal digits onto a value. -/
def readHexDigits (verbose : Bool) : Nat → Nat → Reader Nat
  | 0, value => pure value
  | count + 1, value => do
    let c ← peek .escapeUnexpectedEnd
    match Text.hexDigit? c with
    | none => fail .escapeHexInvalidDigit
    | some digit =>
      drop 1
      blanks verbose
      readHexDigits verbose count (value * 16 + digit)

/-- Reads hexadecimal digits behind an opening brace, and the closing one. -/
def readHexBraced (verbose : Bool) : Reader Nat := do
  let value ← loop (fun _ => verbose)
    (fun (value : Option Nat) c =>
      if c == '\x7d' then pure (.done value)
      else
        match Text.hexDigit? c with
        | none => fail .escapeHexInvalidDigit
        | some digit => pure (.again (some (value.getD 0 * 16 + digit))))
    (fun _ => .error .escapeUnexpectedEnd) none
  blanks verbose
  match value with
  | none => fail .escapeHexEmpty
  | some value => return value

/-- Reads a character by its code point, behind the letter that says how many digits there are. -/
def readHex (verbose : Bool) (digits : Nat) : Reader Literal := do
  blanks verbose
  let braced := (← peek .escapeUnexpectedEnd) == '\x7b'
  if braced then drop 1
  let value ← if braced then readHexBraced verbose else readHexDigits verbose digits 0
  match scalar? value with
  | none => fail .escapeHexInvalid
  | some c => return ⟨c, !braced && digits == 2⟩

/-- Cuts at the first `!=`, which is dropped. -/
def cutAtUnequal? : List Char → Option (List Char × List Char)
  | [] => none
  | '!' :: '=' :: rest => some ([], rest)
  | c :: rest => (cutAtUnequal? rest).map fun (front, back) => (c :: front, back)

/-- Cuts at the first `mark`, which is dropped. -/
def cutAt? (mark : Char) (cs : List Char) : Option (List Char × List Char) :=
  match cs.span (· != mark) with
  | (_, []) => none
  | (front, _ :: back) => some (front, back)

/-- What the text between braces refers to, and whether it is negated. -/
def PropertyName.ofText (cs : List Char) : PropertyName × Bool :=
  match cutAtUnequal? cs with
  | some (property, wanted) => (.value property wanted, true)
  | none =>
    match (cutAt? ':' cs).or (cutAt? '=' cs) with
    | some (property, wanted) => (.value property wanted, false)
    | none => (.name cs, false)

/-- Reads a class that refers to a property, behind the letter that introduces it. -/
def readProperty (verbose negated : Bool) : Reader CharClass := do
  blanks verbose
  let c ← peek .escapeUnexpectedEnd
  if c == '\x7b' then
    drop 1
    let text ← loop (fun _ => verbose)
      (fun (done : List Char) c =>
        pure (if c == '\x7d' then .done done.reverse else .again (c :: done)))
      (fun _ => .error .escapeUnexpectedEnd) []
    let (name, unequal) := PropertyName.ofText text
    return .property name (negated != unequal)
  else if c == '\\' then fail .propertyInvalid
  else
    drop 1
    blanks verbose
    return .property (.name [c]) negated

def boundaryOfName? (name : String) : Option Assertion :=
  if name == "start" then some .wordStart
  else if name == "end" then some .wordEnd
  else if name == "start-half" then some .wordStartHalf
  else if name == "end-half" then some .wordEndHalf
  else none

/-- Reads a word boundary, whose kind may follow in braces. Braces that begin otherwise than with
a letter or a dash are left for a repetition. -/
def readBoundary (verbose : Bool) : Reader Assertion := do
  let isNameChar (c : Char) : Bool := c.isAlpha || c == '-'
  if (← peek?) != some '\x7b' then return .wordBoundary
  let inside := (← rest).drop 1
  match (if verbose then dropBlanks false inside else inside).head? with
  | none => fail .boundaryUnexpectedEnd
  | some c =>
    if !isNameChar c then return .wordBoundary
    drop 1
    let name ← loop (fun _ => verbose)
      (fun (done : List Char) c =>
        if isNameChar c then pure (.again (c :: done))
        else if c == '\x7d' then pure (.done done.reverse)
        else fail .boundaryUnclosed)
      (fun _ => .error .boundaryUnclosed) []
    match boundaryOfName? (String.ofList name) with
    | none => fail .boundaryUnrecognized
    | some kind => return kind

/-- The class that a letter stands for, and whether it is negated. -/
def letterClass? : Char → Option (LetterClass × Bool)
  | 'd' => some (.digit, false)
  | 'D' => some (.digit, true)
  | 's' => some (.space, false)
  | 'S' => some (.space, true)
  | 'w' => some (.word, false)
  | 'W' => some (.word, true)
  | _ => none

/-- The control character that a letter stands for. -/
def control? : Char → Option Char
  | 'a' => some (Char.ofNat 7)
  | 'f' => some (Char.ofNat 12)
  | 't' => some '\t'
  | 'n' => some '\n'
  | 'r' => some '\r'
  | 'v' => some (Char.ofNat 11)
  | _ => none

/-- The condition that a letter or angle bracket stands for. -/
def assertion? : Char → Option Assertion
  | 'A' => some .textStart
  | 'z' => some .textEnd
  | 'B' => some .notWordBoundary
  | '<' => some .wordStart
  | '>' => some .wordEnd
  | _ => none

/-- How many hexadecimal digits follow a letter. -/
def hexWidth? : Char → Option Nat
  | 'x' => some 2
  | 'u' => some 4
  | 'U' => some 8
  | _ => none

/-- Reads what follows a backslash. -/
def readEscape (verbose : Bool) : Reader Ast := do
  let c ← peek .escapeUnexpectedEnd
  drop 1
  if c.isDigit then fail .backreferenceUnsupported
  else if let some width := hexWidth? c then return .literal (← readHex verbose width)
  else if c == 'p' || c == 'P' then return .charClass (← readProperty verbose (c == 'P'))
  else if let some (kind, negated) := letterClass? c then return .charClass (.letter kind negated)
  else if isEscapeable c then return .literal ⟨c, false⟩
  else if let some c := control? c then return .literal ⟨c, false⟩
  else if c == 'b' then return .assertion (← readBoundary verbose)
  else if let some a := assertion? c then return .assertion a
  else fail .escapeUnrecognized

end TrafficCapture.Pattern
