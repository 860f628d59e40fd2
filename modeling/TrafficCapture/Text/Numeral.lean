import TrafficCapture.Text.Ascii

/-! Unsigned numerals: an optional plus sign and at least one digit, with a greatest value. -/

namespace TrafficCapture.Text

/-- Why a text is no numeral of the asked range. -/
inductive NumeralError where
  | empty
  | invalidDigit
  | overflow
  deriving DecidableEq, Repr

def NumeralError.message : NumeralError → String
  | .empty => "cannot parse integer from empty string"
  | .invalidDigit => "invalid digit found in string"
  | .overflow => "number too large to fit in target type"

/-- The value of a digit below `radix`, for radices up to sixteen. -/
def digit? (radix : Nat) (c : Char) : Option Nat :=
  (hexDigit? c).filter (· < radix)

/-- Reads digits onto `value`. The first fault from the left is reported, and a character that is
no digit wins over the overflow that it would have caused. -/
def readDigits (radix greatest : Nat) : Nat → List Char → Except NumeralError Nat
  | value, [] => .ok value
  | value, c :: rest =>
    match digit? radix c with
    | none => .error .invalidDigit
    | some d =>
      if value * radix + d ≤ greatest then readDigits radix greatest (value * radix + d) rest
      else .error .overflow

/-- Reads an unsigned numeral of the given radix and greatest value. -/
def readUnsigned (radix greatest : Nat) : List Char → Except NumeralError Nat
  | [] => .error .empty
  | ['+'] => .error .invalidDigit
  | '+' :: digits => readDigits radix greatest 0 digits
  | digits => readDigits radix greatest 0 digits

def readPort (cs : List Char) : Except NumeralError UInt16 :=
  (readUnsigned 10 0xFFFF cs).map UInt16.ofNat

def readWord64 (cs : List Char) : Except NumeralError UInt64 :=
  (readUnsigned 10 0xFFFFFFFFFFFFFFFF cs).map UInt64.ofNat

end TrafficCapture.Text
