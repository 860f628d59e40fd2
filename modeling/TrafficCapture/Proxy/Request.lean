import TrafficCapture.Exchange
import TrafficCapture.Http.Head
import TrafficCapture.Proxy.Destination
import TrafficCapture.Proxy.Framing
import TrafficCapture.Proxy.Reply

/-! Requests that the proxy forwards. -/

namespace TrafficCapture.Proxy

/-- The most bytes that a request body may have. -/
def requestBodyLimit : Nat := 33554432

/-- A request that is forwarded. -/
structure Request where
  method : Http.Method
  destination : Destination
  version : String
  headers : Http.Headers
  framing : Framing
  deriving DecidableEq, Repr

/-- Header fields that concern one connection alone. -/
def isHopByHop (name : String) : Bool :=
  ["Connection", "Proxy-Connection", "Keep-Alive"].any fun other =>
    Text.equalIgnoringCase name other

/-- The header fields of a forwarded head, with the blank line that ends it. -/
def fieldLines (headers : Http.Headers) : String :=
  String.join ((headers.filter fun field => !isHopByHop field.1).map fun field =>
    field.1 ++ ": " ++ field.2 ++ "\r\n") ++ "Connection: close\r\n\r\n"

namespace Request

/-- Accepts a head, or says why not. A request that announces too large a body is refused as such
even if its target is at fault too. -/
def ofHead (head : Http.RequestHead) : Except Refusal Request :=
  let method := Http.Method.ofToken head.method
  if method == .connect then .error .tunnel
  else
    let announced := (head.headers.value? "content-length").map Framing.readLength
    match announced with
    | some (.error _) => .error .unreadable
    | _ =>
      let length := announced.bind Except.toOption
      if length.any (requestBodyLimit < ·) then .error .tooLarge
      else
        match Destination.resolve? head.target head.headers with
        | none => .error .unreadable
        | some destination =>
          if destination.scheme != .http then .error .encrypted
          else
            .ok ⟨method, destination, Http.versionText head.minor, head.headers,
              Framing.ofRequest length head.headers⟩

/-- The head that is sent on to the server. -/
def headBytes (r : Request) : Bytes :=
  Text.Utf8.encode (r.method.token ++ " " ++ r.destination.path ++ " " ++ r.version ++ "\r\n" ++
    fieldLines r.headers)

/-- The record of the request alone. -/
def exchange (r : Request) : Exchange :=
  { method := r.method
    url := urlOf r.destination.scheme.name r.destination.host r.destination.port r.destination.path
    port := r.destination.port
    version := r.version
    requestHeaders := r.headers
    requestType := r.headers.value? "content-type" }

end Request

/-- The head that is sent back to the client. -/
def responseHeadBytes (head : Http.ResponseHead) : Bytes :=
  Text.Utf8.encode (Http.versionText head.minor ++ " " ++ toString head.status.toNat ++ " " ++
    head.reason ++ "\r\n" ++ fieldLines head.headers)

end TrafficCapture.Proxy
