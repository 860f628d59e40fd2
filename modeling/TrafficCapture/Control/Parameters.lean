import TrafficCapture.Control.Failure
import TrafficCapture.Form
import TrafficCapture.Query.Port

/-! The decoded parameters of a control request. -/

namespace TrafficCapture.Control

/-- Names with their values, in the order of the query. -/
structure Parameters where
  pairs : List (String × String)
  deriving DecidableEq, Repr

namespace Parameters

def ofQuery (query : Option String) : Parameters :=
  ⟨(query.map fun q => Form.pairs q.toList).getD []⟩

/-- The first value of that name. -/
def get? (p : Parameters) (name : String) : Option String :=
  (p.pairs.find? (·.1 == name)).map (·.2)

/-- The first value of that name, unless it is empty. -/
def nonEmpty? (p : Parameters) (name : String) : Option String :=
  (p.get? name).filter (!·.isEmpty)

def require (p : Parameters) (name : String) : Except Failure String :=
  match p.get? name with
  | some value => .ok value
  | none => .error (.missingParameter name)

def requireNonEmpty (p : Parameters) (name : String) : Except Failure String :=
  match p.nonEmpty? name with
  | some value => .ok value
  | none => .error (.missingParameter name)

def port? (p : Parameters) (name : String) : Except Failure (Option UInt16) :=
  match p.get? name with
  | none => .ok none
  | some raw => ((Query.parsePort raw).mapError .query).map some

/-- A number of at most 64 bits, with white space around it. -/
def requireWord64 (p : Parameters) (name : String) : Except Failure UInt64 := do
  let raw ← p.require name
  (Text.readWord64 (Text.trim raw.toList)).mapError fun e =>
    .invalidParameter name
      ("'" ++ raw ++ "' is not a non-negative integer (" ++ e.message ++ ")")

/-- A status code of three digits, with white space around it. -/
def requireStatus (p : Parameters) (name : String) : Except Failure UInt16 := do
  let raw ← p.require name
  let refusal := Failure.invalidParameter name ("'" ++ raw ++ "' is not an HTTP status code")
  match Text.readPort (Text.trim raw.toList) with
  | .ok code => if 100 ≤ code && code ≤ 999 then return code else throw refusal
  | .error _ => throw refusal

end Parameters

end TrafficCapture.Control
