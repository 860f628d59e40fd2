import TrafficCapture.Exchange
import TrafficCapture.Form
import TrafficCapture.Timestamp
import TrafficCapture.Json.Value
import TrafficCapture.Text.Base64

/-! HTTP Archive entries (HAR 1.2), and how an exchange is shown as one. -/

namespace TrafficCapture.Har

/-- A header, or a pair of a query string. -/
structure NameValue where
  name : String
  value : String
  deriving DecidableEq, Repr, Inhabited

/-- A request body: plain text, or text in the named encoding. -/
structure PostData where
  mimeType : String
  text : String
  encoding : Option String
  deriving DecidableEq, Repr, Inhabited

/-- A response body with its size on the wire. -/
structure Content where
  size : Int64
  mimeType : String
  text : Option String
  encoding : Option String
  deriving DecidableEq, Repr, Inhabited

structure Request where
  method : String
  url : String
  version : String
  headers : List NameValue
  query : List NameValue
  cookies : List Json
  headersSize : Int64
  bodySize : Int64
  postData : Option PostData
  deriving Repr, Inhabited

structure Response where
  status : Int64
  statusText : String
  version : String
  headers : List NameValue
  cookies : List Json
  content : Content
  redirectUrl : String
  headersSize : Int64
  bodySize : Int64
  deriving Repr, Inhabited

structure Timings where
  send : Int64
  wait : Int64
  receive : Int64
  deriving DecidableEq, Repr, Inhabited

/-- An entry of an archive, with the store's bookkeeping in front. -/
structure Entry where
  sequence : UInt64
  port : UInt16
  id : String
  started : String
  time : Int64
  request : Request
  response : Response
  cache : List (String × Json)
  timings : Timings
  deriving Repr, Inhabited

/-- The media type of a body that declares none. -/
def defaultMimeType : String := "application/octet-stream"

/-- Bytes as text: as they are if they are well-formed UTF-8, else in the encoding named. -/
def bodyText (body : Bytes) : String × Option String :=
  match Text.Utf8.decode? body with
  | some text => (text, none)
  | none => (String.ofList (Text.Base64.encode body), some "base64")

def nameValues (pairs : List (String × String)) : List NameValue :=
  pairs.map fun (name, value) => ⟨name, value⟩

def PostData.ofBody (mimeType : Option String) (body : Bytes) : PostData :=
  let (text, encoding) := bodyText body
  ⟨mimeType.getD defaultMimeType, text, encoding⟩

/-- The size is the declared one if there is one. Both are shown as signed numbers, so that a
declared size of 2^63 or more comes out negative. -/
def Content.ofBody (mimeType : Option String) (declared : Option UInt64) (body : Option Bytes) :
    Content where
  size := (declared.map UInt64.toInt64).getD ((body.map (Int64.ofNat ·.length)).getD 0)
  mimeType := mimeType.getD defaultMimeType
  text := body.map fun b => (bodyText b).1
  encoding := body.bind fun b => (bodyText b).2

def Request.ofExchange (e : Exchange) : Request where
  method := e.method.token
  url := e.url
  version := e.version
  headers := nameValues e.requestHeaders
  query := nameValues (Form.pairsOfUrl e.url)
  cookies := []
  headersSize := -1
  bodySize := (e.requestBody.map (Int64.ofNat ·.length)).getD 0
  postData := e.requestBody.map (PostData.ofBody e.requestType)

def Response.ofExchange (e : Exchange) : Response :=
  let content := Content.ofBody e.responseType e.responseSize e.responseBody
  { status := (e.status.map (Int64.ofNat ·.toNat)).getD 0
    statusText := e.reason.getD ""
    version := e.version
    headers := nameValues e.responseHeaders
    cookies := []
    content
    redirectUrl := (e.responseHeader? "location").getD ""
    headersSize := -1
    bodySize := content.size }

/-- The signed form of a duration. -/
def milliseconds (n : UInt32) : Int64 := Int64.ofNat n.toNat

/-- A time that was not measured is shown as 0, except that waiting is then taken to have filled
the whole exchange. -/
def Timings.ofTiming (t : Timing) : Timings where
  send := (t.send.map milliseconds).getD 0
  wait := (t.wait.map milliseconds).getD (milliseconds (t.total.getD 0))
  receive := (t.receive.map milliseconds).getD 0

def Entry.ofExchange (e : Exchange) : Entry where
  sequence := e.sequence
  port := e.port
  id := e.id
  started := Timestamp.text e.timing.startedAt.toInt
  time := milliseconds (e.timing.total.getD 0)
  request := Request.ofExchange e
  response := Response.ofExchange e
  cache := []
  timings := Timings.ofTiming e.timing

end TrafficCapture.Har
