import TrafficCapture.Bytes
import TrafficCapture.Net.Peer
import TrafficCapture.Text.Ascii

/-! Bodies of control requests. Nobody wants them: they are only read as far as is needed to find
the next request behind them. -/

namespace TrafficCapture.Control

open Net

/-- The part of a body that comes next. -/
inductive BodyPart where
  | fixed (missing : Nat)
  | sizeStart
  | size (n : Nat)
  | sizeBlank (n : Nat)
  | extension (n : Nat)
  | sizeEnd (n : Nat)
  | data (missing : Nat)
  | dataReturn
  | dataEnd
  | lineStart (afterTrailer : Bool)
  | trailer
  | trailerEnd
  | lastEnd (afterTrailer : Bool)
  deriving DecidableEq, Repr

/-- Where the reading of a body stands. -/
structure BodyState where
  part : BodyPart
  /-- How many bytes the extensions of its chunks have had. -/
  extended : Nat := 0
  deriving DecidableEq, Repr

/-- What an attempt to read on comes to. -/
inductive BodyProgress where
  /-- Some data came, and there is more to come. -/
  | part
  | whole
  | waiting
  /-- The body is broken, or trailers end it. -/
  | broken
  deriving DecidableEq, Repr

namespace BodyPart

/-- Reads one byte between the data of chunks, and says what comes next or how the body ends. -/
def next (b : UInt8) : BodyPart → Except BodyProgress BodyPart
  | sizeStart =>
    match Text.hexDigit? (Char.ofNat b.toNat) with
    | some d => .ok (size d)
    | none => .error .broken
  | size n =>
    match Text.hexDigit? (Char.ofNat b.toNat) with
    | some d => if n * 16 + d < 0x10000000000000000 then .ok (size (n * 16 + d)) else .error .broken
    | none => blank n
  | sizeBlank n => blank n
  | extension n =>
    if b == 13 then .ok (sizeEnd n)
    else if b == 10 then .error .broken
    else .ok (extension n)
  | sizeEnd n =>
    if b != 10 then .error .broken else .ok (if n == 0 then lineStart false else data n)
  | dataReturn => if b == 13 then .ok dataEnd else .error .broken
  | dataEnd => if b == 10 then .ok sizeStart else .error .broken
  | lineStart after => .ok (if b == 13 then lastEnd after else trailer)
  | trailer => .ok (if b == 13 then trailerEnd else trailer)
  | trailerEnd => if b == 10 then .ok (lineStart true) else .error .broken
  | lastEnd after => .error (if b == 10 && !after then .whole else .broken)
  | fixed _ => .error .broken
  | data _ => .error .broken
where
  blank (n : Nat) : Except BodyProgress BodyPart :=
    if b == 9 || b == 32 then .ok (sizeBlank n)
    else if b == 59 then .ok (extension n)
    else if b == 13 then .ok (sizeEnd n)
    else .error .broken

/-- Whether the part is the inside of an extension. -/
def isExtension : BodyPart → Bool
  | extension _ => true
  | _ => false

end BodyPart

namespace BodyState

/-- How many bytes the extensions of all chunks must stay below. -/
def extensionLimit : Nat := 16384

/-- Reads one byte between the data of chunks. -/
def next (b : UInt8) (s : BodyState) : Except BodyProgress BodyState := do
  let part ← s.part.next b
  let extended := if s.part.isExtension && part.isExtension then s.extended + 1 else s.extended
  if extensionLimit ≤ extended then throw .broken
  return { part, extended }

/-- Reads from what is held until data has come, or more has to be read. -/
def scan (s : BodyState) : Bytes → BodyProgress × BodyState × Bytes
  | [] => (.waiting, s, [])
  | b :: rest =>
    match s.part with
    | .fixed n =>
      if n ≤ (b :: rest).length then (.whole, { s with part := .fixed 0 }, (b :: rest).drop n)
      else (.part, { s with part := .fixed (n - (b :: rest).length) }, [])
    | .data n =>
      if n ≤ (b :: rest).length then (.part, { s with part := .dataReturn }, (b :: rest).drop n)
      else (.part, { s with part := .data (n - (b :: rest).length) }, [])
    | _ =>
      match s.next b with
      | .ok s => scan s rest
      | .error progress => (progress, s, rest)

end BodyState

/-- Reads on in a body, at the present time only, until data has come. -/
def readBody : (reads : Nat) → BodyState → Bytes → Peer → Clock →
    BodyProgress × BodyState × Bytes × Peer
  | 0, s, held, peer, _ => (.waiting, s, held, peer)
  | reads + 1, s, held, peer, clock =>
    match s.scan held with
    | (.waiting, s, _) =>
      match peer.read 8192 (clock.limitedTo clock.now) with
      | (.bytes more, peer, _) => readBody reads s more peer clock
      | (.never, peer, _) => (.waiting, s, [], peer)
      | (_, peer, _) => (.broken, s, [], peer)
    | (progress, s, held) => (progress, s, held, peer)

end TrafficCapture.Control
