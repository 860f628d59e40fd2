import TrafficCapture.Exchange
import TrafficCapture.Text.Numeral
import TrafficCapture.Text.Search

/-! Port numbers as parameters, queries that are limited to one port, and ways in which queries
fail. -/

namespace TrafficCapture.Query

/-- The first two are mistakes of the caller; after the other two the same query may succeed. -/
inductive Failure where
  | invalidPattern (pattern reason : String)
  | invalidPort (value : String)
  | storeUnavailable
  /-- The deadline had passed, so many milliseconds after the beginning. -/
  | timeout (elapsed : UInt64)
  deriving DecidableEq, Repr

namespace Failure

def message : Failure → String
  | invalidPattern pattern reason =>
    "URL pattern '" ++ pattern ++ "' is not a valid regular expression: " ++ reason
  | invalidPort value =>
    "'" ++ value ++ "' is not a valid port (expected an integer between 1 and 65535)"
  | storeUnavailable => "entry store is not initialized"
  | timeout elapsed =>
    "query exceeded its deadline after " ++ toString elapsed.toNat ++ " ms"

/-- Whether the same query may succeed later. -/
def retryable : Failure → Bool
  | invalidPattern .. => false
  | invalidPort _ => false
  | storeUnavailable => true
  | timeout _ => true

end Failure

/-! ### Ports -/

/-- Reads a port between 1 and 65535, with white space around it. -/
def parsePort (raw : String) : Except Failure UInt16 :=
  match Text.readPort (Text.trim raw.toList) with
  | .ok port => if 0 < port then .ok port else .error (.invalidPort raw)
  | .error _ => .error (.invalidPort raw)

/-- The exchanges of one server port, or of any. -/
structure PortFilter where
  port : Option UInt16
  deriving DecidableEq, Repr

namespace PortFilter

def any : PortFilter := ⟨none⟩

def only (port : UInt16) : PortFilter := ⟨some port⟩

def admits (filter : PortFilter) (e : Exchange) : Bool := filter.port.all (· == e.port)

end PortFilter

end TrafficCapture.Query
