import TrafficCapture.Json.Lexical

/-! Numbers of JSON. Only an integer that fits into 64 bits is whole; any other number is kept as a
significand and a power of ten, and one beyond all double-precision numbers is refused. -/

namespace TrafficCapture.Json

/-- A number as it is written: an integer of at most 64 bits, or anything else. -/
inductive Number where
  | whole (n : Int)
  | other (significand exponent : Int)

/-- The least magnitude that no double-precision number can stand for. -/
@[irreducible] def unrepresentable : Nat := Nat.pow 2 1024 - Nat.pow 2 970

/-- Whether the number `significand · 10^exponent` is beyond all double-precision numbers. -/
def beyondRange (significand : Nat) (exponent : Int) : Bool :=
  significand != 0 &&
    (310 < exponent ||
      (0 ≤ exponent && unrepresentable ≤ significand * Nat.pow 10 exponent.toNat) ||
      (exponent < 0 && exponent.natAbs ≤ (toString significand).length &&
        unrepresentable * Nat.pow 10 exponent.natAbs ≤ significand))

def digitsValue (digits : List Char) : Nat :=
  digits.foldl (fun n c => n * 10 + (c.toNat - 48)) 0

/-- Reads at least one digit. -/
def readDigits1 (cs : List Char) : Except Fault (List Char × List Char) :=
  match cs.span Char.isDigit with
  | ([], []) => .error .truncated
  | ([], _) => .error .malformed
  | (digits, rest) => .ok (digits, rest)

/-- Reads the digits behind a decimal point, if there is one. -/
def readFraction : List Char → Except Fault (List Char × List Char)
  | '.' :: rest => readDigits1 rest
  | rest => .ok ([], rest)

/-- Reads an exponent, if there is one. -/
def readExponent : List Char → Except Fault (Option Int × List Char)
  | c :: rest =>
    if c == 'e' || c == 'E' then do
      let (negative, rest) := match rest with
        | '+' :: more => (false, more)
        | '-' :: more => (true, more)
        | more => (false, more)
      let (digits, rest) ← readDigits1 rest
      let n : Int := digitsValue digits
      return (some (if negative then -n else n), rest)
    else .ok (none, c :: rest)
  | [] => .ok (none, [])

/-- The number with that sign and these parts. Zero with a minus sign is no integer. -/
def numberOf (negative : Bool) (digits fraction : List Char) (exponent : Option Int) :
    Except Fault Number :=
  let n := digitsValue digits
  let sign : Int := if negative then -1 else 1
  if fraction.isEmpty && exponent.isNone && !negative && n < 0x10000000000000000 then .ok (.whole n)
  else if fraction.isEmpty && exponent.isNone && negative && 0 < n && n ≤ 0x8000000000000000 then
    .ok (.whole (-n))
  else
    let significand := digitsValue (digits ++ fraction)
    let exponent := exponent.getD 0 - fraction.length
    if beyondRange significand exponent then .error .malformed
    else .ok (.other (sign * significand) exponent)

/-- Reads a number behind its sign. A leading zero stands alone. -/
def readNumberBody (negative : Bool) (cs : List Char) : Except Fault (Number × List Char) := do
  let (digits, rest) ← readDigits1 cs
  if digits.head? == some '0' && digits.length != 1 then throw .malformed
  let (fraction, rest) ← readFraction rest
  let (exponent, rest) ← readExponent rest
  return (← numberOf negative digits fraction exponent, rest)

end TrafficCapture.Json
