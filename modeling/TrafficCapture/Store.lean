import TrafficCapture.Exchange

/-! The store: the most recent exchanges in the order of their arrival. -/

namespace TrafficCapture

/-- A store of at most `capacity` exchanges, or of any number, which numbers them from 1 on. -/
structure Store where
  capacity : Option Nat
  entries : Array Exchange
  /-- How many exchanges were ever appended. -/
  appended : Nat
  deriving Repr

namespace Store

/-- An empty store; a capacity of 0 means that there is no bound. -/
def new (capacity : Nat) : Store := ⟨if capacity == 0 then none else some capacity, #[], 0⟩

def unbounded : Store := new 0

/-- Drops the oldest exchanges so that no more than the capacity remain. -/
def evict (capacity : Option Nat) (entries : Array Exchange) : Array Exchange :=
  match capacity with
  | none => entries
  | some c => if c < entries.size then entries.extract (entries.size - c) entries.size else entries

/-- Appends an exchange under the next number, which is returned, and makes room for it. -/
def append (s : Store) (e : Exchange) : UInt64 × Store :=
  let sequence := UInt64.ofNat (s.appended + 1)
  (sequence, { s with
    entries := evict s.capacity (s.entries.push { e with sequence })
    appended := s.appended + 1 })

/-- The present exchanges, oldest first. -/
def snapshot (s : Store) : List Exchange := s.entries.toList

/-- Removes all exchanges and says how many there were. Numbers go on from where they were. -/
def clear (s : Store) : Nat × Store := (s.entries.size, { s with entries := #[] })

def length (s : Store) : Nat := s.entries.size

/-- The number of the newest exchange that was ever appended. -/
def lastSequence? (s : Store) : Option UInt64 :=
  if s.appended == 0 then none else some (UInt64.ofNat s.appended)

end Store

end TrafficCapture
