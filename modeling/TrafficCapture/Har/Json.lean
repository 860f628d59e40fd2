import TrafficCapture.Har.Entry
import TrafficCapture.Json.Record

/-! The JSON form of archive entries, and the archive that wraps them. -/

namespace TrafficCapture.Har

open Json

def NameValue.toJson (p : NameValue) : Json :=
  .object [("name", .text p.name), ("value", .text p.value)]

def NameValue.reader : Reader NameValue :=
  readRecord default
    [.required "name" readText fun v p => { p with name := v },
     .required "value" readText fun v p => { p with value := v }]

def PostData.toJson (p : PostData) : Json :=
  .object ([("mimeType", .text p.mimeType), ("text", .text p.text)] ++
    optionalMember "encoding" .text p.encoding)

def PostData.reader : Reader PostData :=
  readRecord default
    [.required "mimeType" readText fun v p => { p with mimeType := v },
     .required "text" readText fun v p => { p with text := v },
     .defaulted "encoding" readText fun v p => { p with encoding := v }]

def Content.toJson (c : Content) : Json :=
  .object ([("size", .int c.size.toInt), ("mimeType", .text c.mimeType)] ++
    optionalMember "text" .text c.text ++ optionalMember "encoding" .text c.encoding)

def Content.reader : Reader Content :=
  readRecord default
    [.required "size" readSigned64 fun v c => { c with size := v },
     .required "mimeType" readText fun v c => { c with mimeType := v },
     .defaulted "text" readText fun v c => { c with text := v },
     .defaulted "encoding" readText fun v c => { c with encoding := v }]

def Request.toJson (r : Request) : Json :=
  .object ([("method", .text r.method), ("url", .text r.url), ("httpVersion", .text r.version),
    ("headers", .list (r.headers.map NameValue.toJson)),
    ("queryString", .list (r.query.map NameValue.toJson)),
    ("cookies", .list r.cookies), ("headersSize", .int r.headersSize.toInt),
    ("bodySize", .int r.bodySize.toInt)] ++ optionalMember "postData" PostData.toJson r.postData)

def Request.reader : Reader Request :=
  readRecord default
    [.required "method" readText fun v r => { r with method := v },
     .required "url" readText fun v r => { r with url := v },
     .required "httpVersion" readText fun v r => { r with version := v },
     .required "headers" (readList NameValue.reader) fun v r => { r with headers := v },
     .required "queryString" (readList NameValue.reader) fun v r => { r with query := v },
     .required "cookies" (readList readAny) fun v r => { r with cookies := v },
     .required "headersSize" readSigned64 fun v r => { r with headersSize := v },
     .required "bodySize" readSigned64 fun v r => { r with bodySize := v },
     .defaulted "postData" PostData.reader fun v r => { r with postData := v }]

def Response.toJson (r : Response) : Json :=
  .object [("status", .int r.status.toInt), ("statusText", .text r.statusText),
    ("httpVersion", .text r.version), ("headers", .list (r.headers.map NameValue.toJson)),
    ("cookies", .list r.cookies), ("content", r.content.toJson),
    ("redirectURL", .text r.redirectUrl), ("headersSize", .int r.headersSize.toInt),
    ("bodySize", .int r.bodySize.toInt)]

def Response.reader : Reader Response :=
  readRecord default
    [.required "status" readSigned64 fun v r => { r with status := v },
     .required "statusText" readText fun v r => { r with statusText := v },
     .required "httpVersion" readText fun v r => { r with version := v },
     .required "headers" (readList NameValue.reader) fun v r => { r with headers := v },
     .required "cookies" (readList readAny) fun v r => { r with cookies := v },
     .required "content" Content.reader fun v r => { r with content := v },
     .required "redirectURL" readText fun v r => { r with redirectUrl := v },
     .required "headersSize" readSigned64 fun v r => { r with headersSize := v },
     .required "bodySize" readSigned64 fun v r => { r with bodySize := v }]

def Timings.toJson (t : Timings) : Json :=
  .object [("send", .int t.send.toInt), ("wait", .int t.wait.toInt),
    ("receive", .int t.receive.toInt)]

def Timings.reader : Reader Timings :=
  readRecord default
    [.required "send" readSigned64 fun v t => { t with send := v },
     .required "wait" readSigned64 fun v t => { t with wait := v },
     .required "receive" readSigned64 fun v t => { t with receive := v }]

def Entry.toJson (e : Entry) : Json :=
  .object [("_sequenceId", nat e.sequence.toNat), ("_upstreamPort", nat e.port.toNat),
    ("_id", .text e.id), ("startedDateTime", .text e.started), ("time", .int e.time.toInt),
    ("request", e.request.toJson), ("response", e.response.toJson), ("cache", .object e.cache),
    ("timings", e.timings.toJson)]

def Entry.reader : Reader Entry :=
  readRecord default
    [.required "_sequenceId" readWord64 fun v e => { e with sequence := v },
     .required "_upstreamPort" readWord16 fun v e => { e with port := v },
     .required "_id" readText fun v e => { e with id := v },
     .required "startedDateTime" readText fun v e => { e with started := v },
     .required "time" readSigned64 fun v e => { e with time := v },
     .required "request" Request.reader fun v e => { e with request := v },
     .required "response" Response.reader fun v e => { e with response := v },
     .required "cache" (readMap readAny) fun v e => { e with cache := v },
     .required "timings" Timings.reader fun v e => { e with timings := v }]

/-- The version of this program, which archives and the command line name. -/
def creatorVersion : String := "0.1.0"

/-- A whole archive. -/
def logToJson (entries : List Entry) : Json :=
  .object [("log", .object [("version", .text "1.2"),
    ("creator", .object [("name", .text "harcap"), ("version", .text creatorVersion)]),
    ("entries", .list (entries.map Entry.toJson))])]

end TrafficCapture.Har
