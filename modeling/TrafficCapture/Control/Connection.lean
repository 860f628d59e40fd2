import TrafficCapture.Control.Incoming
import TrafficCapture.Control.Service

/-! Connections to the control interface. Requests on one connection are answered in order; the
connection waits for nothing but the head of the next one. -/

namespace TrafficCapture.Control

open Net

/-- The phrase that stands beside a status. -/
def phrase : Nat → String
  | 200 => "OK"
  | 400 => "Bad Request"
  | 404 => "Not Found"
  | 405 => "Method Not Allowed"
  | 414 => "URI Too Long"
  | 431 => "Request Header Fields Too Large"
  | 503 => "Service Unavailable"
  | 504 => "Gateway Timeout"
  | _ => ""

/-- Whether a connection goes on behind the present request. -/
inductive Persistence where
  /-- It goes on, and a request is under way or none has come yet. -/
  | busy
  /-- It goes on, and waits for the next request. -/
  | idle
  | ending
  deriving DecidableEq, Repr

/-- A connection. -/
structure Connection where
  peer : Peer
  clock : Clock
  /-- What was read but belongs to no request yet. -/
  held : Bytes := []
  /-- How much was held when it was last found not to be a whole head. -/
  examined : Option Nat := none
  persistence : Persistence := .busy
  minor : Nat := 1
  upgrade : Bool := false
  deriving DecidableEq, Repr

/-- What the service that a connection leads to is like. -/
structure Serving where
  /-- How long one query may take, in milliseconds. -/
  timeout : Nat
  /-- The date in the heads of replies, if there is a clock to take it from. -/
  date : Option String
  deriving DecidableEq, Repr

namespace Connection

/-- How much is held at most while a head is incomplete. -/
def headLimit : Nat := 417792

/-- Ends a connection in order. One that was to serve another purpose is only let go of. -/
def finish (c : Connection) : Connection :=
  { c with peer := if c.upgrade then c.peer.close else c.peer.shutdown.close }

/-- Lets go of a connection. -/
def abort (c : Connection) : Connection := { c with peer := c.peer.close }

/-- Writes a reply and says whether that was possible. -/
def send (c : Connection) (date : Option String) (status : Nat) (headers : Http.Headers)
    (length : Nat) (body : String) : Bool × Connection :=
  let connection :=
    match c.minor, c.persistence with
    | 0, .ending => []
    | 0, _ => [("connection", "keep-alive")]
    | _, .ending => [("connection", "close")]
    | _, _ => []
  let fields := headers ++ connection ++ [("content-length", toString length)] ++
    (date.map fun date => ("date", date)).toList
  let text :=
    Http.versionText c.minor ++ " " ++ toString status ++ " " ++ phrase status ++ "\r\n" ++
    String.join (fields.map fun field => field.1 ++ ": " ++ field.2 ++ "\r\n") ++ "\r\n" ++ body
  let (done, peer) := c.peer.write (Text.Utf8.encode text)
  (done, { c with peer })

/-- Answers what is no request, and ends the connection. -/
def reject (c : Connection) (date : Option String) (r : Rejection) : Connection :=
  let (done, c) := { c with persistence := .ending }.send date r.status [] 0 ""
  if done then c.finish else c.abort

/-- Whether the end of a head can be among the bytes that have come since the last look. -/
def mayBeWhole : Bytes → Bool
  | 13 :: 10 :: 13 :: 10 :: _ => true
  | 10 :: 10 :: _ => true
  | [] => false
  | _ :: rest => mayBeWhole rest

/-- Looks for a head among what is held. -/
def look (c : Connection) : Except Http.Head.Fault (Http.RequestHead × Bytes) :=
  let tried :=
    match c.examined with
    | none => !c.held.isEmpty
    | some n => mayBeWhole (c.held.drop (n - 3))
  if tried then Http.Head.request Incoming.fieldLimit c.held else .error .incomplete

/-- What the other protocol version begins with, which gets no answer. -/
def otherVersion : Bytes := Bytes.ofAscii "PRI * HTTP/2.0\r\n\r\nSM\r\n\r\n"

/-- Notices that the stream ends behind a request that has come as a whole. -/
def endsEarly (c : Connection) : Bool × Connection :=
  if c.held.isEmpty then
    match c.peer.read 8192 (c.clock.limitedTo c.clock.now) with
    | (.bytes held, peer, _) => (false, { c with held, peer })
    | (.never, peer, _) => (false, { c with peer })
    | (_, peer, _) => (true, { c with peer })
  else (false, c)

/-- Reads on in a body. -/
def readOn (c : Connection) (s : BodyState) : BodyProgress × BodyState × Connection :=
  let (progress, s, held, peer) := readBody (arriving c.peer.script + 2) s c.held c.peer c.clock
  (progress, s, { c with held, peer })

/-- What is left to do about a body once its request is answered. -/
inductive BodyRest where
  | nothing
  | unread (s : BodyState)
  | broken
  deriving DecidableEq, Repr

/-- Reads the body of a request as far as it has come, and notices whether the stream ends where
the request does. -/
def readAhead (c : Connection) (r : Incoming) : Bool × BodyRest × Connection :=
  match r.body with
  | none =>
    let (ended, c) := c.endsEarly
    (ended, .nothing, c)
  | some s =>
    if r.asks then (false, .unread s, c)
    else
      match c.readOn s with
      | (.whole, _, c) =>
        let (ended, c) := c.endsEarly
        (ended, .nothing, c)
      | (.broken, _, c) => (false, .broken, c)
      | (_, s, c) => (false, .unread s, c)

/-- Goes on behind an answered request, or ends the connection. -/
def proceed (c : Connection) (rest : BodyRest) : Connection :=
  match rest with
  | .broken => c.finish
  | .nothing =>
    if c.persistence == .ending then c.finish else { c with persistence := .idle, examined := none }
  | .unread s =>
    match c.readOn s with
    | (.whole, _, c) =>
      if c.persistence == .ending then c.finish
      else { c with persistence := .idle, examined := none }
    | (_, _, c) => c.finish

/-- Answers one request. -/
def answer (c : Connection) (serving : Serving) (registry : Registry) (r : Incoming) :
    Connection × Registry :=
  let c : Connection := { c with
    minor := r.minor
    upgrade := c.upgrade || r.upgrade
    persistence := if c.persistence == .ending || !r.persists then .ending else .busy }
  match c.readAhead r with
  | (true, _, c) => (c.abort, registry)
  | (false, rest, c) =>
    let (reply, registry) :=
      handleAt 0 serving.timeout registry ⟨r.method, r.target.path, r.target.query⟩
    let (done, c) := c.send serving.date reply.status reply.headers reply.body.utf8ByteSize
      (if r.method == "HEAD" then "" else reply.body)
    (if done then c.proceed rest else c.abort, registry)

/-- What the end of the stream comes to while a head is awaited. -/
def endOfStream (c : Connection) : Connection :=
  if (c.held.dropWhile fun b => b == 13 || b == 10).isEmpty then c.finish else c.abort

/-- Goes on until the connection ends or has to wait longer than its clock allows. -/
def run (serving : Serving) : (steps : Nat) → Connection → Registry → Connection × Registry
  | 0, c, registry => (c, registry)
  | steps + 1, c, registry =>
    match c.look with
    | .ok (head, held) =>
      let c := { c with held, examined := none }
      match Incoming.ofHead head with
      | .error r => (c.reject serving.date r, registry)
      | .ok r =>
        let (c, registry) := c.answer serving registry r
        if c.peer.closed then (c, registry) else run serving steps c registry
    | .error .malformed =>
      let c :=
        if otherVersion.isPrefixOf c.held then c.abort else c.reject serving.date .badRequest
      (c, registry)
    | .error .tooManyFields => (c.reject serving.date .headTooLarge, registry)
    | .error .incomplete =>
      if headLimit ≤ c.held.length then (c.reject serving.date .headTooLarge, registry)
      else
        let examined := if c.held.isEmpty then none else some c.held.length
        match c.peer.read 8192 c.clock with
        | (.bytes more, peer, clock) =>
          run serving steps { c with held := c.held ++ more, examined, peer, clock } registry
        | (.never, peer, clock) => ({ c with examined, peer, clock }, registry)
        | (_, peer, clock) => ({ c with peer, clock }.endOfStream, registry)

/-- Goes on until the connection ends or waits beyond the given time. -/
def runUntil (serving : Serving) (time : Nat) (c : Connection) (registry : Registry) :
    Connection × Registry :=
  let c := { c with clock := { c.clock with horizon := time } }
  run serving (c.held.length + 2 * arriving c.peer.script + 2) c registry

/-- When the connection goes on by itself. -/
def wake? (c : Connection) : Option Nat :=
  if c.peer.closed then none
  else
    match c.peer.script with
    | .delay ms :: _ => some (c.clock.now + ms)
    | _ => none

/-- Asks the connection to end as soon as no request is under way. -/
def endSoon (c : Connection) : Connection :=
  if c.peer.closed then c
  else if c.persistence == .idle || c.held.isEmpty then c.finish
  else { c with persistence := .ending }

end Connection

end TrafficCapture.Control
