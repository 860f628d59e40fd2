/-! Finite byte sequences and the searches that message framing needs. -/

namespace TrafficCapture

/-- A finite sequence of bytes, first byte first. -/
abbrev Bytes := List UInt8

namespace Bytes

/-- The pair of bytes that ends a line. -/
def crlf : Bytes := [13, 10]

/-- The blank line that ends a message head, with the line end before it. -/
def headEnd : Bytes := [13, 10, 13, 10]

/-- The bytes of a text written in ASCII alone. -/
def ofAscii (text : String) : Bytes := text.toList.map fun c => UInt8.ofNat c.toNat

/-- Where `mark` first begins, counted from `start` at the head of the list. -/
def positionFrom? (mark : Bytes) (start : Nat) : Bytes → Option Nat
  | [] => if mark.isEmpty then some start else none
  | b :: rest =>
    if mark.isPrefixOf (b :: rest) then some start else positionFrom? mark (start + 1) rest

/-- Cuts behind the first occurrence of `mark`. -/
def cutAfter? (mark bytes : Bytes) : Option (Bytes × Bytes) :=
  (positionFrom? mark 0 bytes).map fun i => bytes.splitAt (i + mark.length)

/-- A cut neither drops nor reorders bytes. -/
theorem append_of_cutAfter? {mark bytes front back : Bytes}
    (h : cutAfter? mark bytes = some (front, back)) : front ++ back = bytes := by
  obtain ⟨i, _, he⟩ := Option.map_eq_some_iff.mp h
  rw [List.splitAt_eq] at he
  cases he
  exact List.take_append_drop _ _

end Bytes

end TrafficCapture
