import TrafficCapture.Pattern.Escape

/-! Classes of characters between brackets. -/

namespace TrafficCapture.Pattern

open Reader
open Unicode (Charset)

/-- The classes of ASCII characters that have a name. -/
def asciiClass? (name : String) : Option Charset :=
  if name == "alnum" then some (.ofText "30-39 41-5A 61-7A")
  else if name == "alpha" then some (.ofText "41-5A 61-7A")
  else if name == "ascii" then some (.ofText "0-7F")
  else if name == "blank" then some (.ofText "9 20")
  else if name == "cntrl" then some (.ofText "0-1F 7F")
  else if name == "digit" then some (.ofText "30-39")
  else if name == "graph" then some (.ofText "21-7E")
  else if name == "lower" then some (.ofText "61-7A")
  else if name == "print" then some (.ofText "20-7E")
  else if name == "punct" then some (.ofText "21-2F 3A-40 5B-60 7B-7E")
  else if name == "space" then some (.ofText "9-D 20")
  else if name == "upper" then some (.ofText "41-5A")
  else if name == "word" then some (.ofText "30-39 41-5A 5F 61-7A")
  else if name == "xdigit" then some (.ofText "30-39 41-46 61-66")
  else none

/-- A named class behind an opening bracket, such as `:alpha:]` or `:^alpha:]`, and how many
characters it takes. -/
def namedClass? : List Char → Option (CharClass × Nat)
  | ':' :: rest =>
    let negated := rest.head? == some '^'
    match (if negated then rest.drop 1 else rest).span (· != ':') with
    | (name, ':' :: ']' :: _) =>
      (asciiClass? (String.ofList name)).map fun set =>
        (.ascii set negated, name.length + (if negated then 4 else 3))
    | _ => none
  | _ => none

/-- What stands between one pair of brackets so far. -/
structure BracketLevel where
  negated : Bool
  /-- The operator before the current items, and its left operand. -/
  pending : Option (SetOperator × CharClass)
  /-- The current items, last first. -/
  items : List CharClass

namespace BracketLevel

def push (level : BracketLevel) (item : CharClass) : BracketLevel :=
  { level with items := item :: level.items }

/-- The operand that the current items end, joined with what stands before them. -/
def operand (level : BracketLevel) : CharClass :=
  let items := CharClass.ofItems level.items.reverse
  match level.pending with
  | none => items
  | some (operator, left) => .combination operator left items

def operate (level : BracketLevel) (operator : SetOperator) : BracketLevel :=
  { level with pending := some (operator, level.operand), items := [] }

def close (level : BracketLevel) : CharClass := .bracketed level.negated level.operand

end BracketLevel

/-- Reads the beginning of a class behind its bracket: a negation, and characters that stand for
themselves only there. -/
def openBracket (verbose : Bool) : Reader BracketLevel := do
  let blanksBefore : Reader Char := do
    blanks verbose
    peek .classUnclosed
  let negated := (← blanksBefore) == '^'
  if negated then
    drop 1
    discard blanksBefore
  let dashes ← loop (fun _ => verbose)
    (fun (dashes : List CharClass) c =>
      pure (if c == '-' then .again (.literal ⟨c, false⟩ :: dashes) else .leave dashes))
    (fun _ => .error .classUnclosed) []
  if dashes.isEmpty && (← peek .classUnclosed) == ']' then
    drop 1
    discard blanksBefore
    return ⟨negated, none, [.literal ⟨']', false⟩]⟩
  return ⟨negated, none, dashes⟩

/-- Reads one item, whose first character is given. -/
def readClassItem (verbose : Bool) (c : Char) : Reader Ast :=
  if c == '\\' then readEscape verbose else pure (.literal ⟨c, false⟩)

/-- The next character that counts behind the one at hand. -/
def peekBehind? (verbose : Bool) (behind : List Char) : Option Char :=
  if verbose then
    let seen :=
      match behind.dropWhile Text.isBlank with
      | '#' :: more => more.dropWhile Text.isBlank
      | more => more
    seen.head?.or behind.head?
  else behind.head?

def asItem : Ast → Except SyntaxError CharClass
  | .literal l => .ok (.literal l)
  | .charClass c => .ok c
  | _ => .error .classEscapeInvalid

def asBound : Ast → Except SyntaxError Literal
  | .literal l => .ok l
  | _ => .error .classRangeLiteral

/-- Reads one item or a range, whose first character is given. -/
def readClassRange (verbose : Bool) (c : Char) : Reader CharClass := do
  let first ← readClassItem verbose c
  blanks verbose
  let next ← peek .classUnclosed
  let behind := peekBehind? verbose ((← rest).drop 1)
  if next != '-' || behind == some ']' || behind == some '-' then ofExcept (asItem first)
  else
    drop 1
    blanks verbose
    let c ← peek .classUnclosed
    drop 1
    let last ← readClassItem verbose c
    let first ← ofExcept (asBound first)
    let last ← ofExcept (asBound last)
    if first.char ≤ last.char then return .range first last else fail .classRangeInvalid

def setOperator? : Char → Option SetOperator
  | '&' => some .intersection
  | '-' => some .difference
  | '~' => some .symmetricDifference
  | _ => none

/-- Reads a class behind its opening bracket. -/
def readBracketed (verbose : Bool) : Reader CharClass := do
  let outermost ← openBracket verbose
  loop (fun _ => verbose)
    (fun ((level, outer) : BracketLevel × List BracketLevel) c => do
      if c == '[' then
        match namedClass? (← rest) with
        | some (item, length) =>
          drop length
          return .again (level.push item, outer)
        | none => return .again (← openBracket verbose, level :: outer)
      else if c == ']' then
        match outer with
        | [] => return .done level.close
        | enclosing :: outer => return .again (enclosing.push level.close, outer)
      else
        match if (← peek?) == some c then setOperator? c else none with
        | some operator =>
          drop 1
          return .again (level.operate operator, outer)
        | none => return .again (level.push (← readClassRange verbose c), outer))
    (fun _ => .error .classUnclosed) (outermost, [])

end TrafficCapture.Pattern
