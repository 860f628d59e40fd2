/-! The smallest parts of JSON text: blanks, fixed words, and the faults that reading can meet. -/

namespace TrafficCapture.Json

/-- Why a text yields no value of the asked type. -/
inductive Fault where
  /-- It is no JSON. -/
  | malformed
  /-- It is JSON so far, but of another type. -/
  | unsuitable
  /-- It ends before the value does. -/
  | truncated
  deriving DecidableEq, Repr

def isBlank (c : Char) : Bool := c == ' ' || c == '\n' || c == '\t' || c == '\r'

def skipBlanks (cs : List Char) : List Char := cs.dropWhile isBlank

/-- Reads the given characters. -/
def expect : List Char → List Char → Except Fault (List Char)
  | [], cs => .ok cs
  | _ :: _, [] => .error .truncated
  | e :: es, c :: cs => if c == e then expect es cs else .error .malformed

theorem expect_length {es cs rest : List Char} (h : expect es cs = .ok rest) :
    rest.length ≤ cs.length := by
  induction es generalizing cs with
  | nil => cases h; exact Nat.le_refl _
  | cons e es ih =>
      cases cs with
      | nil => cases h
      | cons c cs =>
          simp only [expect] at h
          split at h
          · exact Nat.le_succ_of_le (ih h)
          · cases h

end TrafficCapture.Json
