import TrafficCapture.Query.Port
import TrafficCapture.Store

/-! The life of stores: at most one is current, and a reference to a store outlives its time. -/

namespace TrafficCapture

/-- Refers to a store, whether it is current or not. -/
structure StoreRef where
  index : Nat
  deriving DecidableEq, Repr

/-- All stores there ever were, and which of them is current. -/
structure Registry where
  stores : Array Store
  current : Option StoreRef
  deriving Repr

namespace Registry

def new : Registry := ⟨#[], none⟩

/-- Makes a store current, whatever was so before. -/
def install (r : Registry) (s : Store) : StoreRef × Registry :=
  (⟨r.stores.size⟩, ⟨r.stores.push s, some ⟨r.stores.size⟩⟩)

/-- The current store, which is made anew with the given capacity if there is none. -/
def init (r : Registry) (capacity : Nat) : StoreRef × Registry :=
  match r.current with
  | some ref => (ref, r)
  | none => r.install (Store.new capacity)

/-- Lets go of the current store, which stays as it is. -/
def teardown (r : Registry) : Option StoreRef × Registry :=
  (r.current, { r with current := none })

/-- The current store. -/
def get (r : Registry) : Except Query.Failure StoreRef :=
  match r.current with
  | some ref => .ok ref
  | none => .error .storeUnavailable

/-- The store that a reference refers to. -/
def store (r : Registry) (ref : StoreRef) : Store := r.stores.getD ref.index Store.unbounded

/-- Applies an operation to the store that a reference refers to. -/
def update {α : Type} (r : Registry) (ref : StoreRef) (f : Store → α × Store) : α × Registry :=
  let s := r.store ref
  let (a, s) := f s
  (a, { r with stores := r.stores.setIfInBounds ref.index s })

def append (r : Registry) (ref : StoreRef) (e : Exchange) : UInt64 × Registry :=
  r.update ref (·.append e)

def clear (r : Registry) (ref : StoreRef) : Nat × Registry := r.update ref Store.clear

end Registry

end TrafficCapture
