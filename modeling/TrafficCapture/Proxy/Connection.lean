import TrafficCapture.Proxy.Request
import TrafficCapture.Proxy.Transfer

/-! One connection of the proxy. It carries one exchange in two parts: up to the moment at which a
server is sought, and from there to the record of the exchange. Each part depends on nothing but
its own peers. -/

namespace TrafficCapture.Proxy

open Net

/-- The longest head that is waited for. -/
def headLimit : Nat := 65536

/-- The most header fields that a head may have. -/
def fieldLimit : Nat := 128

/-- The largest read of a head. -/
def headRead : Nat := 4096

/-- How long a client may take to send its request head, in milliseconds. -/
def headPatience : Nat := 30000

/-- Why no head was read. -/
inductive HeadFault where
  | failed
  | tooLong
  | waiting
  deriving DecidableEq, Repr

/-- Reads a head, in so many reads, and returns it with what arrived behind it. -/
def readHeadWithin : (reads : Nat) → Bytes → Peer → Clock →
    Except HeadFault (Bytes × Bytes) × Peer × Clock
  | 0, _, peer, clock => (.error .waiting, peer, clock)
  | reads + 1, held, peer, clock =>
    match peer.read headRead clock with
    | (.bytes more, peer, clock) =>
      match Bytes.cutAfter? Bytes.headEnd (held ++ more) with
      | some cut => (.ok cut, peer, clock)
      | none =>
        if headLimit < (held ++ more).length then (.error .tooLong, peer, clock)
        else readHeadWithin reads (held ++ more) peer clock
    | (.ended, peer, clock) => (.error .failed, peer, clock)
    | (.failed _, peer, clock) => (.error .failed, peer, clock)
    | (.never, peer, clock) => (.error .waiting, peer, clock)

/-- Reads a head. Every read brings a byte, so that the head is too long before the reads run
out. -/
def readHead (peer : Peer) (clock : Clock) : Except HeadFault (Bytes × Bytes) × Peer × Clock :=
  readHeadWithin (headLimit + 1) [] peer clock

/-- Ends a connection on the side of the client. -/
def finish (client : Peer) : Peer := client.shutdown.close

/-- What a connection has come to when a server is sought. -/
inductive Opening where
  /-- The client was turned away. -/
  | over (client : Peer) (clock : Clock)
  /-- A request is to be forwarded, and so much of what follows it has arrived. -/
  | wanted (request : Request) (held : Bytes) (client : Peer) (clock : Clock)
  deriving DecidableEq, Repr

/-- Answers a refused request. It does not matter whether the answer arrives. -/
def refuse (refusal : Refusal) (client : Peer) (clock : Clock) : Opening :=
  .over (finish (client.write refusal.reply.bytes).2) clock

/-- Reads a request and accepts or refuses it. A client that takes too long gets no answer. -/
def opening (client : Peer) (clock : Clock) : Opening :=
  match readHead client (clock.limitedTo (clock.now + headPatience)) with
  | (.error .waiting, client, woken) =>
    .over (finish client) (woken.after (clock.now + headPatience - woken.now))
  | (.error _, client, woken) => refuse .unreadable client woken
  | (.ok (head, held), client, woken) =>
    match Http.Head.request fieldLimit head with
    | .error _ => refuse .unreadable client woken
    | .ok (head, _) =>
      match Request.ofHead head with
      | .error refusal => refuse refusal client woken
      | .ok request => .wanted request held client { woken with horizon := clock.horizon }

/-- What the fault of a request body amounts to. -/
def Breakdown.ofFault : Fault → Breakdown
  | .tooLarge _ => .tooLarge
  | _ => .notForwarded

/-- Sends a request on: its head, then its body. -/
def Move.request (request : Request) : Move Nat := do
  Move.put request.headBytes
  Move.body (some requestBodyLimit) request.framing

/-- Sends a response back: its head, then a body of the given framing. -/
def Move.response (head : Http.ResponseHead) (framing : Framing) : Move Nat := do
  Move.put (responseHeadBytes head)
  Move.body none framing

/-- How a connection is left. -/
structure Closing where
  client : Peer
  server : Option Peer
  /-- What is recorded, at the time of the clock. -/
  record : Option Exchange
  clock : Clock
  deriving DecidableEq, Repr

namespace Closing

/-- A connection that still waits. Nothing is recorded of it. -/
def waiting (client server : Peer) (clock : Clock) : Closing := ⟨client, some server, none, clock⟩

/-- Gives an exchange up. The record is lost if the client does not take the answer. -/
def breakdown (b : Breakdown) (start : Nat) (e : Exchange) (client : Peer) (server : Option Peer)
    (clock : Clock) : Closing :=
  let (taken, client) := client.write b.reply.bytes
  let record := (e.fail b.reply.status b.reason b.note)
  let record := { record with timing := { record.timing with total := some (clock.since start) } }
  ⟨finish client, server.map Peer.close, if taken then some record else none, clock⟩

/-- The record of an exchange with a response that came so far. -/
def answered (start : Nat) (e : Exchange) (head : Http.ResponseHead) (begun : Clock)
    (t : Transfer) : Exchange :=
  { e with
    status := some head.status
    reason := some head.reason
    responseType := head.headers.value? "content-type"
    responseHeaders := head.headers
    responseBody := t.captured.body?
    timing := { e.timing with
      receive := some (t.clock.since begun.now)
      total := some (t.clock.since start) } }

/-- Relays a response and completes the record. If the relay fails, the record says so. -/
def relay (request : Request) (start : Nat) (e : Exchange) (head : Http.ResponseHead) (held : Bytes)
    (client server : Peer) (clock : Clock) : Closing :=
  let framing := Framing.ofResponse (request.method == .head) head.status head.headers
  match Move.response head framing { source := server, sink := client, clock, held } with
  | .error .waiting t => waiting t.sink t.source t.clock
  | .error (.failed fault) t =>
    ⟨finish t.sink, some t.source.close,
      some ((answered start e head clock t).fail 502 "Failed to relay response"
        ("Response body relay failed: " ++ fault.message)), t.clock⟩
  | .ok size t =>
    ⟨finish t.sink, some t.source.close,
      some { answered start e head clock t with responseSize := some (UInt64.ofNat size) }, t.clock⟩

/-- Awaits the head of the response and relays it. -/
def respond (request : Request) (start : Nat) (e : Exchange) (client server : Peer)
    (clock : Clock) : Closing :=
  match readHead server clock with
  | (.error .waiting, server, later) => waiting client server later
  | (.error _, server, later) => breakdown .noResponse start e client (some server) later
  | (.ok (head, held), server, later) =>
    match Http.Head.response fieldLimit head with
    | .error _ => breakdown .noResponse start e client (some server) later
    | .ok (head, _) =>
      let e := { e with timing := { e.timing with wait := some (later.since clock.now) } }
      relay request start e head held client server later

/-- Forwards a request to the server that was reached, if one was, and records the exchange. -/
def ofRequest (request : Request) (start : Nat) (e : Exchange) (held : Bytes) (client : Peer)
    (clock : Clock) : Option Peer → Closing
  | none => breakdown .unreachable start e client none clock
  | some server =>
    match Move.request request { source := client, sink := server, clock, held } with
    | .error .waiting t => waiting t.source t.sink t.clock
    | .error (.failed fault) t =>
      breakdown (Breakdown.ofFault fault) start
        { e with requestBody := t.captured.body? } t.source (some t.sink) t.clock
    | .ok _ t =>
      let e := { e with
        requestBody := t.captured.body?
        timing := { e.timing with send := some (t.clock.since clock.now) } }
      respond request start e t.source t.sink t.clock

end Closing

end TrafficCapture.Proxy
