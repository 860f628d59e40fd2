import TrafficCapture.Bytes
import TrafficCapture.Scanner

/-! UTF-8: the encoding of text as bytes, strict decoding, and lossy decoding in which every
maximal ill-formed stretch becomes one replacement character. -/

namespace TrafficCapture.Text.Utf8

def encodeChars (cs : List Char) : Bytes := cs.flatMap String.utf8EncodeChar

def encode (text : String) : Bytes := encodeChars text.toList

/-- The character that stands for an ill-formed stretch. -/
def replacement : Char := Char.ofNat 0xFFFD

/-- How many continuation bytes a leading byte asks for, and the range its first one lies in. -/
def continuation? (b : UInt8) : Option (Nat × UInt8 × UInt8) :=
  if 0xC2 ≤ b && b ≤ 0xDF then some (1, 0x80, 0xBF)
  else if b == 0xE0 then some (2, 0xA0, 0xBF)
  else if b == 0xED then some (2, 0x80, 0x9F)
  else if 0xE1 ≤ b && b ≤ 0xEF then some (2, 0x80, 0xBF)
  else if b == 0xF0 then some (3, 0x90, 0xBF)
  else if 0xF1 ≤ b && b ≤ 0xF3 then some (3, 0x80, 0xBF)
  else if b == 0xF4 then some (3, 0x80, 0x8F)
  else none

/-- The payload bits of a leading byte that asks for `count` continuation bytes. -/
def leadBits (b : UInt8) (count : Nat) : Nat :=
  match count with
  | 1 => b.toNat - 0xC0
  | 2 => b.toNat - 0xE0
  | _ => b.toNat - 0xF0

/-- Reads up to `count` continuation bytes, the first between `low` and `high`, onto the bits
already read. The flag says whether all of them were there. -/
def continueWith (low high : UInt8) : Nat → Nat → Bytes → Bool × Nat × Bytes
  | 0, bits, rest => (true, bits, rest)
  | _ + 1, bits, [] => (false, bits, [])
  | count + 1, bits, b :: rest =>
    if low ≤ b && b ≤ high then
      continueWith 0x80 0xBF count (bits * 64 + (b.toNat - 0x80)) rest
    else (false, bits, b :: rest)

theorem continueWith_length (low high : UInt8) (count bits : Nat) (rest : Bytes) :
    (continueWith low high count bits rest).2.2.length ≤ rest.length := by
  induction count generalizing low high bits rest with
  | zero => simp [continueWith]
  | succ count ih =>
      cases rest with
      | nil => simp [continueWith]
      | cons b rest =>
          simp only [continueWith]
          split
          · exact Nat.le_succ_of_le (ih ..)
          · exact Nat.le_refl _

/-- Reads one character whose leading byte is `b`; `none` stands for a maximal ill-formed
stretch. The bytes behind it come second. -/
def next (b : UInt8) (rest : Bytes) : Option Char × Bytes :=
  if b < 0x80 then (some (Char.ofNat b.toNat), rest)
  else
    match continuation? b with
    | none => (none, rest)
    | some (count, low, high) =>
      match continueWith low high count (leadBits b count) rest with
      | (true, bits, rest) => (some (Char.ofNat bits), rest)
      | (false, _, rest) => (none, rest)

theorem next_length (b : UInt8) (rest : Bytes) : (next b rest).2.length ≤ rest.length := by
  unfold next
  split
  · exact Nat.le_refl _
  · split
    · exact Nat.le_refl _
    · rename_i count low high _
      have h := continueWith_length low high count (leadBits b count) rest
      split <;> simp_all

/-- Cuts bytes into characters and maximal ill-formed stretches. -/
def scanner : Scanner UInt8 (Option Char) := ⟨next, next_length⟩

/-- Decodes well-formed bytes and refuses all others. -/
def decodeChars? (bytes : Bytes) : Option (List Char) :=
  let items := scanner.run bytes
  if items.all Option.isSome then some (items.filterMap id) else none

def decode? (bytes : Bytes) : Option String := (decodeChars? bytes).map String.ofList

/-- Decodes any bytes; each maximal ill-formed stretch becomes one replacement character. -/
def decodeCharsLossy (bytes : Bytes) : List Char :=
  (scanner.run bytes).map (·.getD replacement)

def decodeLossy (bytes : Bytes) : String := String.ofList (decodeCharsLossy bytes)

end TrafficCapture.Text.Utf8
