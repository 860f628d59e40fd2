import TrafficCapture.Control.Failure
import TrafficCapture.Http.StatusClass
import TrafficCapture.Query.Port
import TrafficCapture.Text.Search

/-! The routes of the control interface. -/

namespace TrafficCapture.Control

/-- The kinds of assertions, before their parameters are read. -/
inductive Check where
  | responseTime
  | statusEquals
  | statusClass (family : Http.StatusClass)
  | contentContains
  | contentLacks
  | contentMatches
  | contentLength
  | headerContains
  | headerLacks
  | headersMatch
  deriving DecidableEq, Repr

/-- Whether a check is for all selected exchanges, or for the last one of them. -/
inductive Extent where
  | all
  | mostRecent
  deriving DecidableEq, Repr

/-- What is asked about the exchanges of one port. -/
inductive PortRoute where
  | archive
  | entries
  | mostRecentEntry
  | check (extent : Extent) (check : Check)
  deriving DecidableEq, Repr

inductive Route where
  | allEntries
  | clearEntries
  | ofPort (port : UInt16) (route : PortRoute)
  deriving DecidableEq, Repr

/-- The checks with the segments that name them. -/
def Check.names : List (String × Check) :=
  [("assertResponseTimeLessThanOrEqual", .responseTime),
    ("assertStatusEquals", .statusEquals),
    ("assertContentContains", .contentContains),
    ("assertContentDoesNotContain", .contentLacks),
    ("assertContentMatches", .contentMatches),
    ("assertContentLengthLessThanOrEqual", .contentLength),
    ("assertResponseHeaderContains", .headerContains),
    ("assertResponseHeaderDoesNotContain", .headerLacks),
    ("assertResponseHeaderMatches", .headersMatch),
    ("assertStatusInformational", .statusClass .informational),
    ("assertStatusSuccess", .statusClass .success),
    ("assertStatusRedirection", .statusClass .redirection),
    ("assertStatusClientError", .statusClass .clientError),
    ("assertStatusServerError", .statusClass .serverError)]

def Check.ofName? (name : String) : Option Check := Check.names.lookup name

/-- The segments of a path that are not empty. -/
def segments (path : String) : List String :=
  ((Text.fields '/' path.toList).filter (!·.isEmpty)).map String.ofList

/-- The route behind the port that some segments name. -/
def PortRoute.ofSegments? : List String → Option PortRoute
  | [] => some .archive
  | ["entries"] => some .entries
  | ["mostRecentEntry"] => some .mostRecentEntry
  | ["entries", name] => (Check.ofName? name).map (.check .all)
  | ["mostRecentEntry", name] => (Check.ofName? name).map (.check .mostRecent)
  | _ => none

/-- The route that a method and a path name. An unknown path is reported before a wrong method,
and that before a port that is none. -/
def Route.resolve (method path : String) : Except Failure Route :=
  match segments path with
  | ["entries"] =>
    if method == "GET" then .ok .allEntries
    else if method == "DELETE" then .ok .clearEntries
    else .error (.methodNotAllowed method path)
  | "proxy" :: port :: "har" :: rest =>
    match PortRoute.ofSegments? rest with
    | none => .error (.notFound path)
    | some route =>
      if method != "GET" then .error (.methodNotAllowed method path)
      else ((Query.parsePort port).mapError .query).map (.ofPort · route)
  | _ => .error (.notFound path)

end TrafficCapture.Control
