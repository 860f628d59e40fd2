import TrafficCapture.Assertion
import TrafficCapture.Json.Record

/-! The result of checking an assertion against a list of exchanges, and its JSON form. -/

namespace TrafficCapture.Assertion

open Json

/-- Which exchanges an assertion was checked against. -/
structure Scope where
  urlPattern : Option String
  port : Option UInt16
  deriving DecidableEq, Repr, Inhabited

/-- The result for one exchange. -/
structure Verdict where
  url : String
  failed : Bool
  message : Option String
  deriving DecidableEq, Repr, Inhabited

/-- The result for all exchanges. -/
structure Result where
  message : String
  passed : Bool
  failed : Bool
  scope : Scope
  verdicts : List Verdict
  deriving DecidableEq, Repr, Inhabited

/-- The result for one exchange: it fails exactly if there is a complaint. -/
def verdict (a : Assertion) (e : Exchange) : Verdict :=
  let complaint := a.check e
  ⟨e.url, complaint.isSome, complaint⟩

/-- The result for a list of exchanges. The empty list passes. -/
def checkAll (a : Assertion) (scope : Scope) (entries : List Exchange) : Result :=
  let verdicts := entries.map a.verdict
  let failed := (verdicts.filter (·.failed)).length
  let total := verdicts.length
  { message := toString (total - failed) ++ " passed, " ++ toString total ++ " total"
    passed := failed == 0
    failed := failed != 0
    scope
    verdicts }

/-- The results of the exchanges that failed. -/
def Result.failures (r : Result) : List Verdict := r.verdicts.filter (·.failed)

/-! ### JSON -/

def Scope.toJson (s : Scope) : Json :=
  .object (optionalMember "urlPattern" .text s.urlPattern ++
    optionalMember "port" (nat ·.toNat) s.port)

def Scope.reader : Reader Scope :=
  readRecord default
    [.optional "urlPattern" readText fun v s => { s with urlPattern := v },
     .optional "port" readWord16 fun v s => { s with port := v }]

def Verdict.toJson (v : Verdict) : Json :=
  .object ([("url", .text v.url), ("failed", .bool v.failed)] ++
    optionalMember "message" .text v.message)

def Verdict.reader : Reader Verdict :=
  readRecord default
    [.required "url" readText fun v r => { r with url := v },
     .required "failed" readBool fun v r => { r with failed := v },
     .optional "message" readText fun v r => { r with message := v }]

def Result.toJson (r : Result) : Json :=
  .object [("message", .text r.message), ("passed", .bool r.passed), ("failed", .bool r.failed),
    ("filter", r.scope.toJson), ("requests", .list (r.verdicts.map Verdict.toJson))]

def Result.reader : Reader Result :=
  readRecord default
    [.required "message" readText fun v r => { r with message := v },
     .required "passed" readBool fun v r => { r with passed := v },
     .required "failed" readBool fun v r => { r with failed := v },
     .required "filter" Scope.reader fun v r => { r with scope := v },
     .required "requests" (readList Verdict.reader) fun v r => { r with verdicts := v }]

end TrafficCapture.Assertion
