import TrafficCapture.Bytes
import TrafficCapture.Scanner

/-! Base64 with the standard alphabet and padding. -/

namespace TrafficCapture.Text.Base64

/-- The character for a value below sixty-four. -/
def digit (n : Nat) : Char :=
  if n < 26 then Char.ofNat (65 + n)
  else if n < 52 then Char.ofNat (71 + n)
  else if n < 62 then Char.ofNat (n - 4)
  else if n == 62 then '+'
  else '/'

/-- The value that a character of the alphabet stands for. -/
def value? (c : Char) : Option Nat :=
  let n := c.toNat
  if 65 ≤ n && n ≤ 90 then some (n - 65)
  else if 97 ≤ n && n ≤ 122 then some (n - 71)
  else if 48 ≤ n && n ≤ 57 then some (n + 4)
  else if c == '+' then some 62
  else if c == '/' then some 63
  else none

/-- Three bytes become four characters; a shorter last group is padded with equals signs. -/
def encodeGroup (a : UInt8) : Bytes → List Char × Bytes
  | b :: c :: rest =>
    let n := a.toNat * 65536 + b.toNat * 256 + c.toNat
    ([digit (n / 262144), digit (n / 4096 % 64), digit (n / 64 % 64), digit (n % 64)], rest)
  | [b] =>
    let n := a.toNat * 1024 + b.toNat * 4
    ([digit (n / 4096), digit (n / 64 % 64), digit (n % 64), '='], [])
  | [] =>
    let n := a.toNat * 16
    ([digit (n / 64), digit (n % 64), '=', '='], [])

theorem encodeGroup_length (a : UInt8) (rest : Bytes) :
    (encodeGroup a rest).2.length ≤ rest.length := by
  unfold encodeGroup
  split <;> simp
  omega

def groups : Scanner UInt8 (List Char) := ⟨encodeGroup, encodeGroup_length⟩

def encode (bytes : Bytes) : List Char := (groups.run bytes).flatten

/-- Reads back exactly the texts that `encode` writes. -/
def decode? : List Char → Option Bytes
  | [] => some []
  | [a, b, '=', '='] => do
    let n := (← value? a) * 64 + (← value? b)
    if n % 16 = 0 then some [UInt8.ofNat (n / 16)] else none
  | [a, b, c, '='] => do
    let n := (← value? a) * 4096 + (← value? b) * 64 + (← value? c)
    if n % 4 = 0 then some [UInt8.ofNat (n / 1024), UInt8.ofNat (n / 4)] else none
  | a :: b :: c :: d :: rest => do
    let n := (← value? a) * 262144 + (← value? b) * 4096 + (← value? c) * 64 + (← value? d)
    let bytes ← decode? rest
    some (UInt8.ofNat (n / 65536) :: UInt8.ofNat (n / 256) :: UInt8.ofNat n :: bytes)
  | _ => none

end TrafficCapture.Text.Base64
