import TrafficCapture.Exchange
import TrafficCapture.Json.Record

/-! The JSON form of exchanges and of the enumerations in them: names of fields are written in
snake case, bodies as lists of numbers, headers as pairs. -/

namespace TrafficCapture

open Json

namespace Http

/-- The name that stands for a method in JSON. -/
def Method.name : Method → String
  | get => "Get"
  | post => "Post"
  | put => "Put"
  | patch => "Patch"
  | delete => "Delete"
  | head => "Head"
  | options => "Options"
  | connect => "Connect"
  | trace => "Trace"

def Method.toJson (m : Method) : Json := .text m.name

def Method.reader : Reader Method := readTag (Method.all.map fun m => (m.name, m))

/-- The name that stands for a family of status codes in JSON. -/
def StatusClass.name : StatusClass → String
  | informational => "Informational"
  | success => "Success"
  | redirection => "Redirection"
  | clientError => "ClientError"
  | serverError => "ServerError"
  | unknown => "Unknown"

def StatusClass.toJson (c : StatusClass) : Json := .text c.name

def StatusClass.reader : Reader StatusClass := readTag (StatusClass.all.map fun c => (c.name, c))

/-- Headers as a list of pairs. -/
def Headers.toJson (headers : Headers) : Json :=
  .list (headers.map fun (name, value) => .list [.text name, .text value])

def Headers.reader : Reader Headers := readList (readPair readText readText)

end Http

def Outcome.name : Outcome → String
  | completed => "Completed"
  | failed => "Failed"

def Outcome.toJson (o : Outcome) : Json := .text o.name

def Outcome.reader : Reader Outcome := readTag [("Completed", .completed), ("Failed", .failed)]

def Timing.toJson (t : Timing) : Json :=
  .object
    [("started_at", .int t.startedAt.toInt),
     ("send_ms", .option (nat ·.toNat) t.send),
     ("wait_ms", .option (nat ·.toNat) t.wait),
     ("receive_ms", .option (nat ·.toNat) t.receive),
     ("total_ms", .option (nat ·.toNat) t.total)]

def Timing.reader : Reader Timing :=
  readRecord {}
    [.required "started_at" readSigned64 fun v t => { t with startedAt := v },
     .optional "send_ms" readWord32 fun v t => { t with send := v },
     .optional "wait_ms" readWord32 fun v t => { t with wait := v },
     .optional "receive_ms" readWord32 fun v t => { t with receive := v },
     .optional "total_ms" readWord32 fun v t => { t with total := v }]

/-- A body as the list of its bytes. -/
def bodyToJson (body : Bytes) : Json := .list (body.map fun b => nat b.toNat)

def bodyReader : Reader Bytes := readList readWord8

def Exchange.toJson (e : Exchange) : Json :=
  .object
    [("sequence_id", nat e.sequence.toNat),
     ("id", .text e.id),
     ("upstream_port", nat e.port.toNat),
     ("method", e.method.toJson),
     ("url", .text e.url),
     ("http_version", .text e.version),
     ("state", e.outcome.toJson),
     ("request_headers", Http.Headers.toJson e.requestHeaders),
     ("request_body", .option bodyToJson e.requestBody),
     ("request_content_type", .option .text e.requestType),
     ("status_code", .option (nat ·.toNat) e.status),
     ("status_message", .option .text e.reason),
     ("response_headers", Http.Headers.toJson e.responseHeaders),
     ("response_body", .option bodyToJson e.responseBody),
     ("response_content_type", .option .text e.responseType),
     ("response_size", .option (nat ·.toNat) e.responseSize),
     ("timing", e.timing.toJson),
     ("notes", .option .text e.note)]

def Exchange.reader : Reader Exchange :=
  readRecord {}
    [.required "sequence_id" readWord64 fun v e => { e with sequence := v },
     .required "id" readText fun v e => { e with id := v },
     .required "upstream_port" readWord16 fun v e => { e with port := v },
     .required "method" Http.Method.reader fun v e => { e with method := v },
     .required "url" readText fun v e => { e with url := v },
     .required "http_version" readText fun v e => { e with version := v },
     .required "state" Outcome.reader fun v e => { e with outcome := v },
     .required "request_headers" Http.Headers.reader fun v e => { e with requestHeaders := v },
     .optional "request_body" bodyReader fun v e => { e with requestBody := v },
     .optional "request_content_type" readText fun v e => { e with requestType := v },
     .optional "status_code" readWord16 fun v e => { e with status := v },
     .optional "status_message" readText fun v e => { e with reason := v },
     .required "response_headers" Http.Headers.reader fun v e => { e with responseHeaders := v },
     .optional "response_body" bodyReader fun v e => { e with responseBody := v },
     .optional "response_content_type" readText fun v e => { e with responseType := v },
     .optional "response_size" readWord64 fun v e => { e with responseSize := v },
     .required "timing" Timing.reader fun v e => { e with timing := v },
     .optional "notes" readText fun v e => { e with note := v }]

end TrafficCapture
