import TrafficCapture.Http.StatusClass
import TrafficCapture.Http.Token
import TrafficCapture.Text.Utf8

/-! One captured exchange: a request that went through the proxy, and what came back. -/

namespace TrafficCapture

/-- Whether the response was relayed, or the exchange ended on the way. -/
inductive Outcome where
  | completed
  | failed
  deriving DecidableEq, Repr, Inhabited

/-- When the exchange began and how long its parts took, in milliseconds. -/
structure Timing where
  startedAt : Int64 := 0
  send : Option UInt32 := none
  wait : Option UInt32 := none
  receive : Option UInt32 := none
  total : Option UInt32 := none
  deriving DecidableEq, Repr, Inhabited

/-- A captured exchange. The store gives it its sequence number, which is 0 until then. -/
structure Exchange where
  sequence : UInt64 := 0
  id : String := ""
  port : UInt16 := 0
  method : Http.Method := .get
  url : String := ""
  version : String := "HTTP/1.1"
  outcome : Outcome := .completed
  requestHeaders : Http.Headers := []
  requestBody : Option Bytes := none
  requestType : Option String := none
  status : Option UInt16 := none
  reason : Option String := none
  responseHeaders : Http.Headers := []
  responseBody : Option Bytes := none
  responseType : Option String := none
  responseSize : Option UInt64 := none
  timing : Timing := {}
  note : Option String := none
  deriving DecidableEq, Repr, Inhabited

namespace Exchange

def responseHeader? (e : Exchange) (name : String) : Option String := e.responseHeaders.value? name

def requestHeader? (e : Exchange) (name : String) : Option String := e.requestHeaders.value? name

/-- The captured response body as text. -/
def responseText? (e : Exchange) : Option String := e.responseBody.map Text.Utf8.decodeLossy

/-- The size of the response body on the wire if it is known, else of what was captured. -/
def contentSize (e : Exchange) : UInt64 :=
  e.responseSize.getD ((e.responseBody.map fun body => UInt64.ofNat body.length).getD 0)

/-- Marks the exchange as failed, under a status of the proxy's own. -/
def fail (e : Exchange) (status : UInt16) (reason note : String) : Exchange :=
  { e with outcome := .failed, status := some status, reason := some reason, note := some note }

end Exchange

/-- The URL of a target. The port is left out where the scheme implies it, and an empty path
stands for the root. -/
def urlOf (scheme host : String) (port : UInt16) (path : String) : String :=
  let implied := (scheme == "https" && port == 443) || (scheme == "http" && port == 80)
  scheme ++ "://" ++ host ++ (if implied then "" else ":" ++ toString port.toNat) ++
    (if path.isEmpty then "/" else path)

end TrafficCapture
