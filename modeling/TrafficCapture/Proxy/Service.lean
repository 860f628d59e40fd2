import TrafficCapture.Proxy.Connection
import TrafficCapture.Store.Registry

/-! The proxy at work: clients come one after another or all at once, servers serve one
connection each, and exchanges are recorded in the order in which they end. -/

namespace TrafficCapture.Proxy

open Net

/-- A server that can be reached under a host name and a port, once. -/
structure Server where
  host : String
  port : UInt16
  /-- How long it takes until it is reached. -/
  delay : Nat := 0
  peer : Peer
  connected : Bool := false
  deriving DecidableEq, Repr

/-- What marks an exchange from others: its identifier and the time when it was accepted, in
milliseconds since the epoch. -/
structure Stamp where
  id : String
  acceptedAt : Int64
  deriving DecidableEq, Repr

/-- The first server of that name that was not reached yet. -/
def claim (host : String) (port : UInt16) (servers : List Server) : Option Nat :=
  servers.findIdx? fun u => !u.connected && u.host == host && u.port == port

/-- All that the proxy acts upon. -/
structure World where
  servers : List Server
  /-- Which servers were sought, in order. -/
  sought : List (String × UInt16)
  registry : Registry
  /-- How long the proxy has been at work, in milliseconds. -/
  elapsed : Nat := 0
  deriving Repr

namespace World

/-- Records an exchange, which is lost if no store is current. -/
def record (w : World) (e : Exchange) : World :=
  match w.registry.current with
  | none => w
  | some ref => { w with registry := (w.registry.append ref e).2 }

/-- Puts a server back after an exchange. -/
def settle (w : World) (index : Nat) (peer : Peer) : World :=
  { w with servers := w.servers.modify index fun u => { u with peer } }

end World

/-- A connection on its way, and the server that it reached. -/
inductive Passage where
  | over (client : Peer) (clock : Clock)
  | under (request : Request) (held : Bytes) (client : Peer) (clock : Clock) (server : Option Nat)
  deriving DecidableEq, Repr

/-- The clock of a connection that seeks a server. -/
def Passage.clock? : Passage → Option Clock
  | .over .. => none
  | .under _ _ _ clock _ => some clock

/-- Seeks the server of one connection. -/
def Passage.seek (w : World) : Passage → Passage × World
  | .over client clock => (.over client clock, w)
  | .under request held client clock _ =>
    let host := request.destination.host
    let port := request.destination.port
    let found := claim host port w.servers
    let servers :=
      match found with
      | none => w.servers
      | some i => w.servers.modify i fun u => { u with connected := true }
    (.under request held client clock found,
      { w with servers, sought := w.sought ++ [(host, port)] })

/-- Carries the exchange of one connection to its end, from what the servers were before. -/
def Passage.conclude (stamp : Stamp) (servers : List Server) : Passage → Closing
  | .over client clock => ⟨client, none, none, clock⟩
  | .under request held client clock found =>
    let e := { request.exchange with
      id := stamp.id
      timing := { startedAt := stamp.acceptedAt + Int64.ofNat clock.now } }
    match found.bind (servers[·]?) with
    | none => Closing.ofRequest request 0 e held client clock none
    | some u =>
      if clock.allows u.delay then
        Closing.ofRequest request 0 e held client (clock.after u.delay) (some u.peer)
      else Closing.waiting client u.peer clock

/-- The places of a list, ordered by the clocks of what stands there. -/
def inOrder {α : Type} (clock : α → Option Clock) (items : List α) : List Nat :=
  let timed := items.zipIdx.filterMap fun (a, i) => (clock a).map (·, i)
  (timed.mergeSort fun a b => a.1.le b.1).map (·.2)

/-- The order in which connections that are under way at once take their turns. -/
structure Schedule where
  /-- The places of those that seek a server, first one first. -/
  seeking : List Passage → List Nat
  /-- The places of those that record an exchange, first one first. -/
  recording : List Closing → List Nat

/-- The schedule by the times of the connections. -/
def Schedule.byTime : Schedule where
  seeking := inOrder Passage.clock?
  recording := inOrder fun c => c.record.map fun _ => c.clock

/-- Opens the connection of a client. -/
def Passage.ofClient (horizon : Nat) (client : Peer) : Passage :=
  match opening client ⟨horizon, []⟩ with
  | .over client clock => .over client clock
  | .wanted request held client clock => .under request held client clock none

/-- Seeks the server of the connection at one place. -/
def seekAt (passages : List Passage) (w : World) (i : Nat) : List Passage × World :=
  match passages[i]? with
  | none => (passages, w)
  | some p =>
    let (p, w) := p.seek w
    (passages.set i p, w)

/-- Puts the server of one connection back. -/
def settleOne (w : World) (p : Passage) (c : Closing) : World :=
  match p, c.server with
  | .under _ _ _ _ (some i), some peer => w.settle i peer
  | _, _ => w

/-- Records the exchange of the connection at one place. -/
def recordAt (closings : List Closing) (w : World) (i : Nat) : World :=
  match closings[i]?.bind Closing.record with
  | none => w
  | some e => w.record e

/-- How long a connection takes. -/
def Closing.duration (horizon : Nat) (c : Closing) : Nat :=
  if c.client.closed then c.clock.now else horizon

/-- Lets connections seek their servers, each in its turn. -/
def seekAll (schedule : Schedule) (passages : List Passage) (w : World) : List Passage × World :=
  (schedule.seeking passages).foldl (fun (passages, w) i => seekAt passages w i) (passages, w)

/-- Records the exchanges of connections, each in its turn. -/
def recordAll (schedule : Schedule) (closings : List Closing) (w : World) : World :=
  (schedule.recording closings).foldl (recordAt closings) w

/-- Carries clients that come at once as far as to what is recorded of them. -/
def carry (schedule : Schedule) (stamp : Stamp) (horizon : Nat) (clients : List Peer) (w : World) :
    List Closing × World :=
  let stamp := { stamp with acceptedAt := stamp.acceptedAt + Int64.ofNat w.elapsed }
  let (passages, w) := seekAll schedule (clients.map (Passage.ofClient horizon)) w
  let closings := passages.map (Passage.conclude stamp w.servers)
  (closings, (passages.zip closings).foldl (fun w (p, c) => settleOne w p c) w)

/-- Carries clients that come at once. -/
def serveTogether (schedule : Schedule) (stamp : Stamp) (horizon : Nat) (clients : List Peer)
    (w : World) : List Peer × World :=
  let (closings, w) := carry schedule stamp horizon clients w
  let w := recordAll schedule closings w
  let last := (closings.map (Closing.duration horizon)).foldl max 0
  (closings.map Closing.client, { w with elapsed := w.elapsed + last })

/-- Carries clients, each of which waits for the one before it unless they are concurrent. An
attempt that failed before there was a client is passed over. -/
def serve (stamp : Stamp) (horizon : Nat) (concurrent : Bool) (accepted : List (Except String Peer))
    (w : World) : List Peer × World :=
  let clients := accepted.filterMap Except.toOption
  if concurrent then serveTogether .byTime stamp horizon clients w
  else
    clients.foldl
      (fun (done, w) client =>
        let (left, w) := serveTogether .byTime stamp horizon [client] w
        (done ++ left, w))
      ([], w)

end TrafficCapture.Proxy
