import TrafficCapture.Assertion.Result
import TrafficCapture.Control.Parameters
import TrafficCapture.Control.Route
import TrafficCapture.Har.Json
import TrafficCapture.Query.Spec
import TrafficCapture.Store.Registry

/-! Answering control requests. -/

namespace TrafficCapture.Control

/-- Reads a pattern as part of a request. -/
def compile (source : String) : Except Failure Pattern := (Query.compile source).mapError .query

namespace Check

/-- The pattern for URLs. Checks of the status take an absent or empty one for any URL. -/
def urlPattern (c : Check) (p : Parameters) : Except Failure (Option String) :=
  match c with
  | .statusEquals => .ok (p.nonEmpty? "urlPattern")
  | .statusClass _ => .ok (p.nonEmpty? "urlPattern")
  | _ => (p.require "urlPattern").map some

/-- The assertion with its parameters. -/
def assertion (c : Check) (p : Parameters) : Except Failure Assertion :=
  match c with
  | .responseTime => return .responseTimeAtMost (← p.requireWord64 "milliseconds")
  | .statusEquals => return .statusEquals (← p.requireStatus "status")
  | .statusClass family => return .statusBelongsTo family
  | .contentContains => return .contentContains (← p.requireNonEmpty "contentText")
  | .contentLacks => return .contentLacks (← p.requireNonEmpty "contentText")
  | .contentMatches => return .contentMatches (← compile (← p.require "contentPattern"))
  | .contentLength => return .contentLengthAtMost (← p.requireWord64 "length")
  | .headerContains =>
    return .headerContains (p.nonEmpty? "headerName") (← p.requireNonEmpty "headerValue")
  | .headerLacks =>
    return .headerLacks (p.nonEmpty? "headerName") (← p.requireNonEmpty "headerValue")
  | .headersMatch => do
    let name ← (p.nonEmpty? "headerNamePattern").mapM compile
    let value ← compile (← p.require "headerValuePattern")
    return .headersMatch name value

end Check

/-- A request, as far as its answer depends on it. -/
structure Request where
  method : String
  path : String
  query : Option String
  deriving DecidableEq, Repr

/-- What a request is answered from: the stores, and the clock with the deadline for scans. -/
structure Setting where
  registry : Registry
  clock : Query.Clock
  deadline : Option Int

namespace Setting

/-- The exchanges in the current store. -/
def snapshot (s : Setting) : Except Failure (List Exchange) :=
  (s.registry.get.mapError .query).map fun ref => (s.registry.store ref).snapshot

/-- The exchanges that a query selects. -/
def select (s : Setting) (ports : Query.PortFilter) (pattern : Pattern) :
    Except Failure (List Exchange) := do
  (Query.filter s.deadline s.clock ports pattern (← s.snapshot)).mapError .query

/-- The last of the exchanges that a query selects. -/
def selectLast (s : Setting) (ports : Query.PortFilter) (pattern : Pattern) :
    Except Failure (Option Exchange) := do
  (Query.mostRecent s.deadline s.clock ports pattern (← s.snapshot)).mapError .query

/-- Exchanges as the entries of an archive. -/
def entriesReply (entries : List Exchange) : Reply :=
  .ofJson (.list (entries.map fun e => (Har.Entry.ofExchange e).toJson))

/-- Answers a request about the exchanges of one port. -/
def answerPort (s : Setting) (p : Parameters) (port : UInt16) :
    PortRoute → Except Failure Reply
  | .archive => do
    let pattern ← compile ".*"
    let entries ← s.select (.only port) pattern
    return .ofJson (Har.logToJson (entries.map Har.Entry.ofExchange))
  | .entries => do
    let pattern ← compile (← p.require "urlPattern")
    return entriesReply (← s.select (.only port) pattern)
  | .mostRecentEntry => do
    let pattern ← compile (← p.require "urlPattern")
    match ← s.selectLast (.only port) pattern with
    | some e => return .ofJson (Har.Entry.ofExchange e).toJson
    | none => return .ofJson (.object [])
  | .check extent check => do
    let urlPattern ← check.urlPattern p
    let assertion ← check.assertion p
    let pattern ← compile (urlPattern.getD ".*")
    let entries ←
      match extent with
      | .all => s.select (.only port) pattern
      | .mostRecent => Option.toList <$> s.selectLast (.only port) pattern
    return .ofJson (assertion.checkAll ⟨urlPattern, some port⟩ entries).toJson

/-- Answers a request that has a route. Only clearing changes anything. -/
def answer (s : Setting) (p : Parameters) : Route → Except Failure (Reply × Registry)
  | .allEntries => do
    let port ← p.port? "port"
    let pattern ← compile (← p.require "urlPattern")
    return (entriesReply (← s.select ⟨port⟩ pattern), s.registry)
  | .clearEntries => do
    let ref ← s.registry.get.mapError .query
    let (count, registry) := s.registry.clear ref
    return (.ofJson (.object [("cleared", Json.nat count)]), registry)
  | .ofPort port route => do
    return (← s.answerPort p port route, s.registry)

/-- Answers a request. -/
def handle (s : Setting) (r : Request) : Reply × Registry :=
  match do s.answer (.ofQuery r.query) (← Route.resolve r.method r.path) with
  | .ok answer => answer
  | .error failure => (failure.reply, s.registry)

end Setting

/-- Answers a request while the clock stands still, with so many milliseconds for scans. -/
def handleAt (now : Int) (timeout : Nat) (registry : Registry) (r : Request) : Reply × Registry :=
  Setting.handle ⟨registry, .still now, some (now + timeout)⟩ r

end TrafficCapture.Control
