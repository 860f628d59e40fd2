import TrafficCapture.Http.Token
import TrafficCapture.Text.Numeral
import TrafficCapture.Text.Search

/-! Where a request goes to. -/

namespace TrafficCapture.Proxy

inductive Scheme where
  | http
  | https
  deriving DecidableEq, Repr

namespace Scheme

def name : Scheme → String
  | .http => "http"
  | .https => "https"

def defaultPort : Scheme → UInt16
  | .http => 80
  | .https => 443

end Scheme

/-- The server that a request is for, and the path there. -/
structure Destination where
  scheme : Scheme
  host : String
  port : UInt16
  path : String
  deriving DecidableEq, Repr

namespace Destination

/-- Cuts a host and its port apart. What does not end in a port is a host as a whole. -/
def hostAndPort (text : List Char) (fallback : UInt16) : String × UInt16 :=
  match Text.cutAtLast? ':' text with
  | none => (String.ofList text, fallback)
  | some (host, port) =>
    match Text.readPort port with
    | .ok port => (String.ofList host, port)
    | .error _ => (String.ofList text, fallback)

/-- The destination that an absolute target names behind its scheme. A query may follow the host
at once, and is then a query of the root. -/
def ofAuthority? (scheme : Scheme) (text : List Char) : Option Destination :=
  let (authority, path) := text.span fun c => c != '/' && c != '?'
  let (host, port) := hostAndPort authority scheme.defaultPort
  let path :=
    match path with
    | '/' :: _ => String.ofList path
    | _ => String.ofList ('/' :: path)
  if host.isEmpty then none else some ⟨scheme, host, port, path⟩

/-- The destination of a request target. Unless it names one itself, the host field does. -/
def resolve? (target : String) (headers : Http.Headers) : Option Destination :=
  match Text.dropFront? "http://".toList target.toList with
  | some rest => ofAuthority? .http rest
  | none =>
    match Text.dropFront? "https://".toList target.toList with
    | some rest => ofAuthority? .https rest
    | none =>
      (headers.value? "host").map fun host =>
        let (host, port) := hostAndPort host.toList 80
        ⟨.http, host, port, target⟩

end Destination

end TrafficCapture.Proxy
