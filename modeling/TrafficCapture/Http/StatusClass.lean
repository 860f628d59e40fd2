/-! Families of response status codes. -/

namespace TrafficCapture.Http

inductive StatusClass where
  | informational
  | success
  | redirection
  | clientError
  | serverError
  | unknown
  deriving DecidableEq, Repr, Inhabited

namespace StatusClass

def all : List StatusClass :=
  [.informational, .success, .redirection, .clientError, .serverError, .unknown]

/-- The family of a code: its hundreds between one and five. -/
def ofCode (code : UInt16) : StatusClass :=
  match code.toNat / 100 with
  | 1 => informational
  | 2 => success
  | 3 => redirection
  | 4 => clientError
  | 5 => serverError
  | _ => unknown

def contains (family : StatusClass) (code : UInt16) : Bool := ofCode code == family

def label : StatusClass → String
  | informational => "Informational"
  | success => "Success"
  | redirection => "Redirection"
  | clientError => "Client Error"
  | serverError => "Server Error"
  | unknown => "Unknown Status"

end StatusClass

end TrafficCapture.Http
