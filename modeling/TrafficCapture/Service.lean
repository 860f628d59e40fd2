import TrafficCapture.Config
import TrafficCapture.Control.Connection
import TrafficCapture.Proxy.Service

/-! The whole service: a store, the control interface, and the proxy unless it is disabled. Time
passes while a caller waits for a connection, and then all other connections go on too. -/

namespace TrafficCapture

open Net

/-- Addresses that are listened at, and how many free ports were handed out. -/
structure Listeners where
  bound : List SocketAddress := []
  handedOut : Nat := 0
  deriving DecidableEq, Repr

namespace Listeners

/-- The first port that is handed out for port 0. -/
def firstFreePort : Nat := 40000

/-- Listens at an address that nobody listens at. Port 0 stands for the next free port. -/
def bind (l : Listeners) (a : SocketAddress) : Option SocketAddress × Listeners :=
  let free := a.port == 0
  let a := if free then { a with port := UInt16.ofNat (firstFreePort + l.handedOut) } else a
  let l := if free then { l with handedOut := l.handedOut + 1 } else l
  if l.bound.contains a then (none, l) else (some a, { l with bound := a :: l.bound })

/-- Listens at addresses, as far as that is possible. -/
def bindAll (l : Listeners) (addresses : List SocketAddress) : Listeners :=
  addresses.foldl (fun l a => (l.bind a).2) l

end Listeners

/-- Why the service does not start. -/
inductive StartFault where
  | badAddress (message : String)
  | restTaken (host : String) (port : UInt16)
  | proxyTaken (host : String) (port : UInt16)
  deriving DecidableEq, Repr

def StartFault.message : StartFault → String
  | badAddress message => message
  | restTaken host port => "binding Control API to " ++ host ++ ":" ++ toString port.toNat
  | proxyTaken host port => "binding capture proxy to " ++ host ++ ":" ++ toString port.toNat

/-- A service that runs. -/
structure Service where
  restAddress : SocketAddress
  proxyAddress : Option SocketAddress
  serving : Control.Serving
  registry : Registry
  /-- The time since the start, in milliseconds. -/
  now : Nat := 0
  /-- The connections to the control interface, in the order in which they came. -/
  connections : List Control.Connection := []
  deriving Repr

namespace Service

/-- Listens at an address of the configuration. -/
def listen (l : Listeners) (address : Except String SocketAddress) (taken : StartFault) :
    Except StartFault (SocketAddress × Listeners) := do
  let address ← address.mapError .badAddress
  match l.bind address with
  | (some address, l) => return (address, l)
  | (none, _) => throw taken

/-- Starts the service. -/
def start (c : Config) (date : Option String) (l : Listeners) : Except StartFault Service := do
  let (_, registry) := Registry.new.init c.maxEntries.toNat
  let (restAddress, l) ← listen l c.restAddress (.restTaken c.restHost c.restPort)
  let proxyAddress ←
    if c.disableCapture then pure none
    else do
      let (address, _) ← listen l c.proxyAddress (.proxyTaken c.proxyHost c.proxyPort)
      pure (some address)
  return ⟨restAddress, proxyAddress, ⟨c.queryTimeout.toNat, date⟩, registry, 0, []⟩

/-- Lets one connection go on until the given time. -/
def runConnection (s : Service) (index time : Nat) : Service :=
  match s.connections[index]? with
  | none => s
  | some c =>
    let (c, registry) := c.runUntil s.serving time s.registry
    { s with connections := s.connections.set index c, registry }

/-- The next time at which a connection goes on by itself, and which one. -/
def nextWake? (s : Service) : Option (Nat × Nat) :=
  s.connections.zipIdx.foldl
    (fun best (c, i) =>
      match c.wake?, best with
      | none, _ => best
      | some t, none => some (t, i)
      | some t, some (first, j) => if t < first then some (t, i) else some (first, j))
    none

/-- How many waits are still to come on the connections. -/
def waits (s : Service) : Nat :=
  s.connections.foldl (fun n c => n + c.peer.script.length) 0

/-- Lets time pass, at most until `time` and no further than when `done` holds. -/
def passUntil (done : Service → Bool) (time : Nat) : (wakes : Nat) → Service → Service
  | 0, s => s
  | wakes + 1, s =>
    if done s then s
    else
      match s.nextWake? with
      | none => { s with now := max s.now time }
      | some (wake, index) =>
        if time < wake then { s with now := max s.now time }
        else passUntil done time wakes ({ s with now := wake }.runConnection index wake)

/-- Lets time pass until `time` or until `done` holds. -/
def pass (s : Service) (done : Service → Bool) (time : Nat) : Service :=
  passUntil done time (s.waits + 1) s

/-- Whether the connection at that place has ended. -/
def hasEnded (index : Nat) (s : Service) : Bool :=
  (s.connections[index]?.map fun c => c.peer.closed).getD true

/-- Takes a connection to the control interface and returns its place. -/
def accept (s : Service) (peer : Peer) : Nat × Service :=
  let index := s.connections.length
  let c : Control.Connection := { peer, clock := ⟨s.now, [s.now]⟩ }
  let s := { s with connections := s.connections ++ [c] }
  (index, s.runConnection index s.now)

/-- The peer of the connection at that place. -/
def peer (s : Service) (index : Nat) : Peer :=
  (s.connections[index]?.map Control.Connection.peer).getD {}

/-- Takes a connection and waits for its end, or for so long. -/
def converse (s : Service) (peer : Peer) (patience : Nat) : Nat × Service :=
  let (index, s) := s.accept peer
  (index, s.pass (hasEnded index) (s.now + patience))

/-- Takes a connection and waits so long. -/
def begin (s : Service) (peer : Peer) (ms : Nat) : Nat × Service :=
  let (index, s) := s.accept peer
  (index, s.pass (fun _ => false) (s.now + ms))

/-- Lets the proxy carry clients, while everything else goes on. -/
def carry (s : Service) (stamp : Proxy.Stamp) (horizon : Nat) (concurrent : Bool)
    (accepted : List (Except String Peer)) (servers : List Proxy.Server) :
    List Peer × Proxy.World × Service :=
  let (clients, w) := Proxy.serve stamp horizon concurrent accepted ⟨servers, [], s.registry, 0⟩
  let s := { s with registry := w.registry }
  (clients, w, s.pass (fun _ => false) (s.now + w.elapsed))

/-- How long the service waits for connections when it stops, in milliseconds. -/
def drainTime : Nat := 5000

/-- Stops the service: no connection is taken any more, those that are idle end, and the others
have some time left. Then there is no store any more. The time that it took is returned too. -/
def stop (s : Service) : Nat × Service :=
  let before := s.now
  let s := { s with connections := s.connections.map Control.Connection.endSoon }
  let allEnded (s : Service) : Bool := s.connections.all fun c => c.peer.closed
  let s := s.pass allEnded (before + drainTime)
  (s.now - before, { s with registry := s.registry.teardown.2 })

end Service

end TrafficCapture
