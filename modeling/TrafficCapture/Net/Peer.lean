import TrafficCapture.Bytes
import TrafficCapture.Net.Clock

/-! The far end of a connection: what will arrive from it, and what was written to it. -/

namespace TrafficCapture.Net

/-- What happens next at a peer that is read from. -/
inductive Event where
  | arrival (bytes : Bytes)
  | delay (ms : Nat)
  | failure (reason : String)
  /-- Nothing will ever arrive again. -/
  | silence
  deriving DecidableEq, Repr

/-- What one read brings. -/
inductive Reading where
  | bytes (bytes : Bytes)
  | ended
  | failed (reason : String)
  /-- The read does not come back while the connection is watched. -/
  | never
  deriving DecidableEq, Repr

/-- A peer of a connection. -/
structure Peer where
  script : List Event := []
  /-- How many more bytes it accepts. -/
  room : Option Nat := none
  /-- How often it was read from. -/
  reads : Nat := 0
  /-- What was written to it, the last write first. -/
  writes : List Bytes := []
  shutDown : Bool := false
  closed : Bool := false
  deriving DecidableEq, Repr

/-- One read from a script: at most one arrival and at most `size` bytes. The end of the script is
the end of the stream. -/
def read (size : Nat) : List Event → Clock → Reading × List Event × Clock
  | [], clock => (.ended, [], clock)
  | .arrival bytes :: rest, clock =>
    if bytes.isEmpty then read size rest clock
    else
      (.bytes (bytes.take size),
        if (bytes.drop size).isEmpty then rest else .arrival (bytes.drop size) :: rest, clock)
  | .delay ms :: rest, clock =>
    if clock.allows ms then read size rest (clock.after ms)
    else (.never, .delay ms :: rest, clock)
  | .failure reason :: rest, clock => (.failed reason, rest, clock)
  | .silence :: rest, clock => (.never, .silence :: rest, clock)

/-- All bytes of a script, in order. -/
def content (script : List Event) : Bytes :=
  script.flatMap fun event => match event with | .arrival bytes => bytes | _ => []

/-- A read takes its bytes from the front of what is to come, at least one and at most as many as
were asked for. -/
theorem content_of_read {size : Nat} {script rest : List Event} {clock later : Clock}
    {bytes : Bytes} (h : read size script clock = (.bytes bytes, rest, later)) (hs : 0 < size) :
    content script = bytes ++ content rest ∧ bytes ≠ [] ∧ bytes.length ≤ size := by
  induction script generalizing clock with
  | nil => simp [read] at h
  | cons event script ih =>
    cases event with
    | arrival arrived =>
      simp only [read] at h
      split at h
      · rename_i he
        have := ih h
        simpa [content, List.isEmpty_iff.mp he] using this
      · rename_i he
        have hne : arrived ≠ [] := fun hn => he (by simp [hn])
        have hfront : arrived.take size ≠ [] := by
          simpa [List.take_eq_nil_iff, hne] using Nat.ne_of_gt hs
        cases h
        refine ⟨?_, hfront, by rw [List.length_take]; omega⟩
        split
        · rename_i hd
          have := List.take_append_drop size arrived
          rw [List.isEmpty_iff.mp hd, List.append_nil] at this
          simp [content, this]
        · simp [content, ← List.append_assoc]
    | delay ms =>
      simp only [read] at h
      split at h
      · simpa [content] using ih h
      · cases h
    | failure reason => simp [read] at h
    | silence => simp [read] at h

namespace Peer

def read (p : Peer) (size : Nat) (clock : Clock) : Reading × Peer × Clock :=
  let (reading, script, clock) := Net.read size p.script clock
  (reading, { p with script, reads := p.reads + 1 }, clock)

/-- Writes some bytes and says whether all of them were accepted. -/
def write (p : Peer) (bytes : Bytes) : Bool × Peer :=
  match p.room with
  | none => (true, { p with writes := bytes :: p.writes })
  | some room =>
    let size := bytes.length
    (size ≤ room,
      { p with writes := bytes.take room :: p.writes, room := some (room - size) })

/-- All that was written, in order. -/
def received (p : Peer) : Bytes := p.writes.reverse.flatten

/-- The part of some bytes that a peer accepts. -/
def accepted (p : Peer) (bytes : Bytes) : Bytes :=
  match p.room with
  | none => bytes
  | some room => bytes.take room

/-- A peer receives what it accepts, behind what it received before. -/
theorem received_write (p : Peer) (bytes : Bytes) :
    (p.write bytes).2.received = p.received ++ p.accepted bytes := by
  unfold write accepted
  split <;> simp [received]

def shutdown (p : Peer) : Peer := { p with shutDown := true }

def close (p : Peer) : Peer := { p with closed := true }

end Peer

/-- How many bytes a script brings. -/
def arriving : List Event → Nat
  | [] => 0
  | .arrival bytes :: rest => bytes.length + arriving rest
  | .delay _ :: rest => arriving rest
  | .failure _ :: rest => arriving rest
  | .silence :: rest => arriving rest

end TrafficCapture.Net
