import TrafficCapture.Bytes

/-! The beginning of a body, kept for the record. -/

namespace TrafficCapture.Proxy

/-- The most bytes of a body that are kept. -/
def captureLimit : Nat := 524288

/-- The stretches kept so far, the last one first, and how many more bytes are kept. -/
structure Capture where
  stretches : List Bytes := []
  room : Nat := captureLimit
  deriving DecidableEq, Repr

namespace Capture

/-- Keeps as much of a stretch as there is room for. -/
def push (c : Capture) (bytes : Bytes) : Capture :=
  if c.room == 0 then c
  else
    let kept := bytes.take c.room
    ⟨kept :: c.stretches, c.room - kept.length⟩

/-- The bytes kept. -/
def bytes (c : Capture) : Bytes := c.stretches.reverse.flatten

/-- The bytes kept, if there are any. -/
def body? (c : Capture) : Option Bytes := if c.bytes.isEmpty then none else some c.bytes

/-- Whatever is pushed, the beginning of it is kept. -/
theorem bytes_push (c : Capture) (b : Bytes) :
    (c.push b).bytes = c.bytes ++ b.take c.room := by
  unfold push
  split
  · rename_i h
    simp [beq_iff_eq.mp h]
  · simp [bytes]

theorem room_push (c : Capture) (b : Bytes) : (c.push b).room = c.room - b.length := by
  unfold push
  split
  · rename_i h
    simp [beq_iff_eq.mp h]
  · simp only [List.length_take]
    omega

end Capture

end TrafficCapture.Proxy
