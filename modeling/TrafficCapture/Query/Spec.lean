import TrafficCapture.Json.Record
import TrafficCapture.Pattern
import TrafficCapture.Query.Port

/-! Queries, which search a list of exchanges. A scan looks at the clock before every batch and is
given up without a result once the deadline has passed. -/

namespace TrafficCapture.Query

open Json

/-- What a clock reads when a scan begins and before each of its batches, in milliseconds. -/
structure Clock where
  started : Int
  check : Nat → Int

/-- A clock that stands still. -/
def Clock.still (now : Int) : Clock := ⟨now, fun _ => now⟩

/-- How many exchanges make a batch. -/
def batch : Nat := 256

/-- The check before the exchange at an index, which takes place at the beginning of a batch. -/
def checkAt (deadline : Option Int) (clock : Clock) (index : Nat) : Except Failure Unit :=
  match deadline with
  | none => .ok ()
  | some deadline =>
    let now := clock.check (index / batch)
    if index % batch == 0 && deadline ≤ now then
      .error (.timeout (UInt64.ofNat (now - clock.started).toNat))
    else .ok ()

/-- Keeps what is wanted, behind what has been kept so far, last first. -/
def filterFrom (deadline : Option Int) (clock : Clock) (wanted : Exchange → Bool) (index : Nat)
    (kept : List Exchange) : List Exchange → Except Failure (List Exchange)
  | [] => .ok kept.reverse
  | e :: rest =>
    match checkAt deadline clock index with
    | .error failure => .error failure
    | .ok () =>
      filterFrom deadline clock wanted (index + 1) (if wanted e then e :: kept else kept) rest

/-- The first one that is wanted. -/
def findFrom (deadline : Option Int) (clock : Clock) (wanted : Exchange → Bool) (index : Nat) :
    List Exchange → Except Failure (Option Exchange)
  | [] => .ok none
  | e :: rest =>
    match checkAt deadline clock index with
    | .error failure => .error failure
    | .ok () =>
      if wanted e then .ok (some e) else findFrom deadline clock wanted (index + 1) rest

/-- Whether an exchange belongs to the port and has a URL that the pattern matches. -/
def selects (ports : PortFilter) (pattern : Pattern) (e : Exchange) : Bool :=
  ports.admits e && pattern.accepts e.url

/-- The exchanges of a snapshot that a query selects, in their order. -/
def filter (deadline : Option Int) (clock : Clock) (ports : PortFilter) (pattern : Pattern)
    (snapshot : List Exchange) : Except Failure (List Exchange) :=
  filterFrom deadline clock (selects ports pattern) 0 [] snapshot

/-- The last exchange of a snapshot that a query selects; the search begins at the end. -/
def mostRecent (deadline : Option Int) (clock : Clock) (ports : PortFilter) (pattern : Pattern)
    (snapshot : List Exchange) : Except Failure (Option Exchange) :=
  findFrom deadline clock (selects ports pattern) 0 snapshot.reverse

/-- Reads a pattern as part of a query. -/
def compile (source : String) : Except Failure Pattern :=
  (Pattern.compile source).mapError fun fault => .invalidPattern source fault.reason

/-! ### Queries as data -/

/-- A query for the exchanges of a port whose URL matches a pattern in full. -/
structure Spec where
  port : Option UInt16
  urlPattern : String
  deriving DecidableEq, Repr, Inhabited

namespace Spec

/-- Answers the query from a snapshot. The pattern is read first. -/
def run (spec : Spec) (deadline : Option Int) (clock : Clock) (snapshot : List Exchange) :
    Except Failure (List Exchange) := do
  let pattern ← compile spec.urlPattern
  filter deadline clock ⟨spec.port⟩ pattern snapshot

def toJson (spec : Spec) : Json :=
  .object [("port_filter", .option (nat ·.toNat) spec.port),
    ("url_pattern", .text spec.urlPattern)]

def reader : Reader Spec :=
  readRecord default
    [.optional "port_filter" readWord16 fun v s => { s with port := v },
     .required "url_pattern" readText fun v s => { s with urlPattern := v }]

end Spec

end TrafficCapture.Query
