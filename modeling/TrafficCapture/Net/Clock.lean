/-! The time of one connection, in milliseconds since it was accepted. Time stands still while a
connection works and passes only while it waits. -/

namespace TrafficCapture.Net

/-- When a connection was woken so far, latest first, and the time at which all watching ends. -/
structure Clock where
  horizon : Nat
  wakes : List Nat := []
  deriving DecidableEq, Repr

namespace Clock

def now (c : Clock) : Nat := c.wakes.headD 0

/-- The clock after a wait. A connection that need not wait is not woken. -/
def after (c : Clock) (ms : Nat) : Clock :=
  if ms == 0 then c else { c with wakes := (c.now + ms) :: c.wakes }

/-- Whether a wait of that length ends in time. -/
def allows (c : Clock) (ms : Nat) : Bool := c.now + ms ≤ c.horizon

/-- The same clock, watched no longer than until `time`. -/
def limitedTo (c : Clock) (time : Nat) : Clock := { c with horizon := min c.horizon time }

/-- How long it has been, as far as 32 bits can tell. -/
def since (c : Clock) (start : Nat) : UInt32 := UInt32.ofNat (min (c.now - start) 0xFFFFFFFF)

/-- Of connections that are woken at one time, the one that began to wait first runs first. -/
def earlier : List Nat → List Nat → Bool
  | [], _ => true
  | _ :: _, [] => false
  | a :: as, b :: bs => a < b || (a == b && earlier as bs)

/-- Whether a connection at the time `a` runs no later than one at the time `b`. -/
def le (a b : Clock) : Bool := earlier a.wakes b.wakes

end Clock

end TrafficCapture.Net
