import TrafficCapture.Text.Utf8
import TrafficCapture.Text.Search
import TrafficCapture.Text.Ascii

/-! Form-encoded queries: percent escapes, plus signs, and name-value pairs. -/

namespace TrafficCapture.Form

/-- The value of a byte that is a hexadecimal digit. -/
def hexByte? (b : UInt8) : Option UInt8 :=
  (Text.hexDigit? (Char.ofNat b.toNat)).map UInt8.ofNat

/-- Decodes one byte: an escape stands for its byte and a plus sign for a space. A percent sign
without two hexadecimal digits behind it stands for itself. -/
def decodeByte (b : UInt8) (rest : Bytes) : UInt8 × Bytes :=
  if b == 0x25 then
    match rest with
    | h :: l :: more =>
      match hexByte? h, hexByte? l with
      | some high, some low => (high * 16 + low, more)
      | _, _ => (b, rest)
    | _ => (b, rest)
  else if b == 0x2B then (0x20, rest)
  else (b, rest)

theorem decodeByte_length (b : UInt8) (rest : Bytes) :
    (decodeByte b rest).2.length ≤ rest.length := by
  unfold decodeByte
  split
  · split
    · split <;> simp
      omega
    · exact Nat.le_refl _
  · split <;> exact Nat.le_refl _

def scanner : Scanner UInt8 UInt8 := ⟨decodeByte, decodeByte_length⟩

/-- Decodes a name or a value. -/
def decode (cs : List Char) : String :=
  Text.Utf8.decodeLossy (scanner.run (Text.Utf8.encodeChars cs))

/-- Cuts a segment at its first equals sign and decodes both parts. -/
def pair (segment : List Char) : String × String :=
  let (name, value) := Text.cutAt '=' segment
  (decode name, decode (value.getD []))

/-- The decoded pairs of a query, in order. Empty segments between ampersands are skipped. -/
def pairs (query : List Char) : List (String × String) :=
  ((Text.fields '&' query).filter (! ·.isEmpty)).map pair

/-- The pairs of the query of a URL: what lies behind its first question mark and before any
number sign. -/
def pairsOfUrl (url : String) : List (String × String) :=
  match Text.cutAt '?' (Text.cutAt '#' url.toList).1 with
  | (_, some query) => pairs query
  | (_, none) => []

end TrafficCapture.Form
