import TrafficCapture.Http.Token
import TrafficCapture.Json.Value
import TrafficCapture.Query.Port

/-! Ways in which a control request fails, and how a reply tells of them. -/

namespace TrafficCapture.Control

/-- What a request is answered with. -/
structure Reply where
  status : Nat
  /-- The headers that were set, in that order. -/
  headers : Http.Headers
  body : String
  deriving DecidableEq, Repr

/-- A reply that carries a value. -/
def Reply.ofJson (value : Json) : Reply :=
  ⟨200, [("content-type", "application/json")], value.render⟩

inductive Failure where
  | query (failure : Query.Failure)
  | missingParameter (name : String)
  | invalidParameter (name reason : String)
  | notFound (path : String)
  | methodNotAllowed (method path : String)
  deriving DecidableEq, Repr

namespace Failure

def message : Failure → String
  | query failure => failure.message
  | missingParameter name => "missing required query parameter '" ++ name ++ "'"
  | invalidParameter name reason => "invalid value for parameter '" ++ name ++ "': " ++ reason
  | notFound path => "no route for " ++ path
  | methodNotAllowed method path => "method " ++ method ++ " is not allowed on " ++ path

/-- The name of the kind of failure, which bodies carry. -/
def kind : Failure → String
  | query (.invalidPattern ..) => "invalid_pattern"
  | query (.invalidPort _) => "invalid_port"
  | query .storeUnavailable => "store_unavailable"
  | query (.timeout _) => "timeout"
  | missingParameter _ => "missing_parameter"
  | invalidParameter .. => "invalid_parameter"
  | notFound _ => "not_found"
  | methodNotAllowed .. => "method_not_allowed"

def status : Failure → Nat
  | query (.invalidPattern ..) => 400
  | query (.invalidPort _) => 400
  | query .storeUnavailable => 503
  | query (.timeout _) => 504
  | missingParameter _ => 400
  | invalidParameter .. => 400
  | notFound _ => 404
  | methodNotAllowed .. => 405

/-- Whether the same request may succeed later. -/
def retryable : Failure → Bool
  | query failure => failure.retryable
  | _ => false

/-- The methods that replies to a refused method name. -/
def allowedMethods : List String := ["GET", "DELETE"]

def reply (f : Failure) : Reply where
  status := f.status
  headers :=
    [("content-type", "application/json")] ++
      (if f.status == 405 then [("allow", ", ".intercalate allowedMethods)] else []) ++
      (if f.retryable then [("retry-after", "1")] else [])
  body :=
    (Json.object [("error", .object
      [("kind", .text f.kind), ("message", .text f.message)])]).render

end Failure

end TrafficCapture.Control
