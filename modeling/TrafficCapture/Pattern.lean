import TrafficCapture.Pattern.Meaning
import TrafficCapture.Pattern.Parse
import TrafficCapture.Pattern.Size
import TrafficCapture.Pattern.Track

/-! Patterns for whole texts, as queries and assertions use them. -/

namespace TrafficCapture.Pattern

/-- Why a text is refused as a pattern. -/
inductive Fault where
  | empty
  | invalid (e : SyntaxError)
  | tooLarge
  deriving DecidableEq, Repr

/-- The room that the machines of a pattern may take, in bytes. -/
def roomLimit : Nat := 1048576

def Fault.reason : Fault → String
  | empty => "empty string is not a valid pattern"
  | invalid e => "error: " ++ e.message
  | tooLarge => "compiled pattern exceeds the " ++ toString roomLimit ++ " byte limit"

/-- The expression that a text writes, if it is not too large. -/
def regexOf (text : List Char) : Except Fault Regex := do
  let regex ← ((Ast.parse text).bind Ast.regex).mapError .invalid
  if roomLimit < regex.machineRoom then throw .tooLarge
  return regex

/-- A pattern that asks for a match of the whole text, written out. -/
def anchored (text : List Char) : List Char :=
  ['^', '(', '?', ':'] ++ text ++ [')', '$']

end Pattern

/-- A pattern that is ready to be matched with whole texts. -/
structure Pattern where
  source : String
  track : Pattern.Track

namespace Pattern

/-- Reads a pattern. It has to be one on its own too, so that no part of it can close the group
that it is put into. -/
def compile (source : String) : Except Fault Pattern := do
  if source.isEmpty then throw .empty
  discard (regexOf source.toList)
  let regex ← regexOf (anchored source.toList)
  return ⟨source, .ofRegex regex⟩

/-- Whether the pattern matches the whole of a text. -/
def accepts (p : Pattern) (text : String) : Bool := p.track.foundIn text.toList

end Pattern

end TrafficCapture
