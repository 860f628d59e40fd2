import TrafficCapture.Control.Route
import TrafficCapture.Proofs.Text.Search

/-! # Routing

A path is made of segments with slashes between them and, as many as there are, around them. What a
request is routed to depends on these segments and on its method alone. Every place has segments of
its own, in which only the port may be written in several ways. -/

namespace TrafficCapture.Control

open List Query

/-! ## Paths -/

/-- A text writes segments in their order. No two of them touch. -/
inductive PathText : List String → List Char → Prop
  | nil : PathText [] []
  | slash {segs : List String} {cs : List Char} (h : PathText segs cs) : PathText segs ('/' :: cs)
  | segment {seg : String} {segs : List String} {cs : List Char} (hne : seg ≠ "")
      (hslash : '/' ∉ seg.toList) (h : PathText segs cs) (hends : ∀ c ∈ cs.head?, c = '/') :
      PathText (seg :: segs) (seg.toList ++ cs)

theorem PathText.segments_eq {path : String} {segs : List String}
    (h : PathText segs path.toList) : segments path = segs := by
  unfold segments
  generalize path.toList = cs at h
  induction h with
  | nil => rfl
  | slash _ ih => rw [Text.fields_cons_self, filter_cons_of_neg (by simp), ih]
  | @segment seg segs cs hne hslash h hends ih =>
      have hkept : [seg.toList].filter (!·.isEmpty) = [seg.toList] := by simpa using hne
      cases cs with
      | nil =>
          obtain rfl : [] = segs := ih
          rw [append_nil, Text.fields_of_notMem hslash, hkept]
          simp
      | cons c cs =>
          obtain rfl : c = '/' := hends c rfl
          rw [Text.fields_cons_self, filter_cons_of_neg (by simp)] at ih
          rw [Text.fields_append, Text.fields_of_notMem hslash, filter_append, hkept, map_append,
            ih]
          simp

/-- Every text writes some segments. -/
theorem exists_pathText (cs : List Char) : ∃ segs, PathText segs cs := by
  induction cs with
  | nil => exact ⟨[], .nil⟩
  | cons c cs ih =>
      obtain ⟨segs, h⟩ := ih
      by_cases hc : c = '/'
      · rw [hc]
        exact ⟨segs, .slash h⟩
      · have hlone : '/' ∉ (String.ofList [c]).toList := by simpa using Ne.symm hc
        have hbegin (hends : ∀ d ∈ cs.head?, d = '/') :
            PathText (String.ofList [c] :: segs) (c :: cs) := by
          simpa using PathText.segment (by simp) hlone h hends
        cases h with
        | nil => exact ⟨_, hbegin nofun⟩
        | slash => exact ⟨_, hbegin (by simp)⟩
        | @segment seg segs cs hne hslash h hends =>
            -- the character belongs to the segment behind it
            refine ⟨String.ofList (c :: seg.toList) :: segs, ?_⟩
            have hmore : '/' ∉ (String.ofList (c :: seg.toList)).toList := by
              simpa using ⟨Ne.symm hc, hslash⟩
            simpa using PathText.segment (by simp) hmore h hends

theorem pathText_iff {path : String} {segs : List String} :
    PathText segs path.toList ↔ segments path = segs := by
  constructor
  · exact PathText.segments_eq
  · rintro rfl
    obtain ⟨segs, h⟩ := exists_pathText path.toList
    rwa [h.segments_eq]

/-! ## Places -/

/-- The segment that names a check. There is no check for statuses of the unknown family. -/
def Check.name? : Check → Option String
  | .responseTime => some "assertResponseTimeLessThanOrEqual"
  | .statusEquals => some "assertStatusEquals"
  | .statusClass .informational => some "assertStatusInformational"
  | .statusClass .success => some "assertStatusSuccess"
  | .statusClass .redirection => some "assertStatusRedirection"
  | .statusClass .clientError => some "assertStatusClientError"
  | .statusClass .serverError => some "assertStatusServerError"
  | .statusClass .unknown => none
  | .contentContains => some "assertContentContains"
  | .contentLacks => some "assertContentDoesNotContain"
  | .contentMatches => some "assertContentMatches"
  | .contentLength => some "assertContentLengthLessThanOrEqual"
  | .headerContains => some "assertResponseHeaderContains"
  | .headerLacks => some "assertResponseHeaderDoesNotContain"
  | .headersMatch => some "assertResponseHeaderMatches"

/-- The segment in front of the checks of an extent. -/
def Extent.segment : Extent → String
  | .all => "entries"
  | .mostRecent => "mostRecentEntry"

/-- What there is to be asked about the exchanges of a port, by the segments that ask for it. -/
inductive PortRoute.Named : List String → PortRoute → Prop
  | archive : Named [] .archive
  | entries : Named ["entries"] .entries
  | mostRecentEntry : Named ["mostRecentEntry"] .mostRecentEntry
  | check {name : String} {c : Check} (extent : Extent) (h : c.name? = some name) :
      Named [extent.segment, name] (.check extent c)

/-- What a path may lead to, with the port as it is written. -/
inductive Place where
  | entries
  | ofPort (port : String) (route : PortRoute)
  deriving DecidableEq, Repr

/-- The segments that lead to a place. -/
inductive Leads : List String → Place → Prop
  | entries : Leads ["entries"] .entries
  | ofPort {port : String} {rest : List String} {route : PortRoute}
      (h : PortRoute.Named rest route) :
      Leads ("proxy" :: port :: "har" :: rest) (.ofPort port route)

/-- Everything can be looked at, and all exchanges together can be cleared. -/
def Place.methods : Place → List String
  | .entries => ["GET", "DELETE"]
  | .ofPort .. => ["GET"]

theorem Check.ofName?_eq_some_iff {name : String} {c : Check} :
    Check.ofName? name = some c ↔ c.name? = some name := by
  have hnames : ∀ entry ∈ Check.names, entry.2.name? = some entry.1 := by decide
  constructor
  · intro h
    obtain ⟨front, back, heq, -⟩ := lookup_eq_some_iff.mp h
    apply hnames (name, c)
    rw [heq]
    exact mem_append_right front mem_cons_self
  · intro h
    cases c with
    | statusClass family => cases family <;> cases h <;> decide
    | _ => cases h; decide

theorem PortRoute.ofSegments?_eq_some_iff {rest : List String} {route : PortRoute} :
    PortRoute.ofSegments? rest = some route ↔ Named rest route := by
  constructor
  · intro h
    unfold PortRoute.ofSegments? at h
    split at h
    · cases h
      exact .archive
    · cases h
      exact .entries
    · cases h
      exact .mostRecentEntry
    · obtain ⟨c, hc, rfl⟩ := Option.map_eq_some_iff.mp h
      exact .check .all (Check.ofName?_eq_some_iff.mp hc)
    · obtain ⟨c, hc, rfl⟩ := Option.map_eq_some_iff.mp h
      exact .check .mostRecent (Check.ofName?_eq_some_iff.mp hc)
    · cases h
  · intro h
    cases h with
    | archive => rfl
    | entries => rfl
    | mostRecentEntry => rfl
    | check extent h =>
        have hname := Check.ofName?_eq_some_iff.mpr h
        cases extent <;> simp [PortRoute.ofSegments?, Extent.segment, hname]

theorem leads_entries_iff {segs : List String} : Leads segs .entries ↔ segs = ["entries"] := by
  constructor
  · intro h
    cases h
    rfl
  · rintro rfl
    exact .entries

theorem leads_ofPort_iff {segs : List String} {port : String} {route : PortRoute} :
    Leads segs (.ofPort port route) ↔
      ∃ rest, segs = "proxy" :: port :: "har" :: rest ∧
        PortRoute.ofSegments? rest = some route := by
  simp only [PortRoute.ofSegments?_eq_some_iff]
  constructor
  · rintro ⟨⟩
    exact ⟨_, rfl, ‹_›⟩
  · rintro ⟨rest, rfl, h⟩
    exact .ofPort h

theorem Leads.unique {segs : List String} {place place' : Place} (h : Leads segs place)
    (h' : Leads segs place') : place = place' := by
  cases place with
  | entries =>
      obtain rfl := leads_entries_iff.mp h
      cases place' with
      | entries => rfl
      | ofPort port route =>
          obtain ⟨rest, heq, -⟩ := leads_ofPort_iff.mp h'
          simp at heq
  | ofPort port route =>
      obtain ⟨rest, rfl, hroute⟩ := leads_ofPort_iff.mp h
      cases place' with
      | entries =>
          have heq := leads_entries_iff.mp h'
          simp at heq
      | ofPort port' route' =>
          obtain ⟨rest', heq, hroute'⟩ := leads_ofPort_iff.mp h'
          simp only [cons.injEq, true_and] at heq
          obtain ⟨rfl, rfl⟩ := heq
          rw [Option.some.inj (hroute.symm.trans hroute')]

/-! ## Routes -/

/-- What becomes of a method and a path with these segments. -/
inductive Routed (method path : String) (segs : List String) : Except Failure Route → Prop
  | unknown (h : ∀ place, ¬ Leads segs place) : Routed method path segs (.error (.notFound path))
  | refused {place : Place} (h : Leads segs place) (hmethod : method ∉ place.methods) :
      Routed method path segs (.error (.methodNotAllowed method path))
  | allEntries (h : Leads segs .entries) (hmethod : method = "GET") :
      Routed method path segs (.ok .allEntries)
  | clearEntries (h : Leads segs .entries) (hmethod : method = "DELETE") :
      Routed method path segs (.ok .clearEntries)
  | portless {text : String} {route : PortRoute} (h : Leads segs (.ofPort text route))
      (hmethod : method = "GET") (hport : ∀ port, parsePort text ≠ .ok port) :
      Routed method path segs (.error (.query (.invalidPort text)))
  | ofPort {text : String} {route : PortRoute} {port : UInt16} (h : Leads segs (.ofPort text route))
      (hmethod : method = "GET") (hport : parsePort text = .ok port) :
      Routed method path segs (.ok (.ofPort port route))

theorem parsePort_cases (text : String) :
    (∃ port, parsePort text = .ok port) ∨ parsePort text = .error (.invalidPort text) := by
  unfold parsePort
  split
  · split
    · exact .inl ⟨_, rfl⟩
    · exact .inr rfl
  · exact .inr rfl

theorem routed_resolve (method path : String) :
    Routed method path (segments path) (Route.resolve method path) := by
  unfold Route.resolve
  split
  · rename_i hpath
    have hleads := leads_entries_iff.mpr hpath
    by_cases hget : method = "GET"
    · simpa [hget] using Routed.allEntries hleads hget
    · by_cases hdelete : method = "DELETE"
      · simpa [hdelete] using Routed.clearEntries hleads hdelete
      · simpa [hget, hdelete] using Routed.refused hleads (by simp [Place.methods, hget, hdelete])
  · rename_i port rest hpath
    cases hroute : PortRoute.ofSegments? rest with
    | none =>
        refine .unknown fun place h => ?_
        cases place with
        | entries => simp [leads_entries_iff.mp h] at hpath
        | ofPort port' route =>
            obtain ⟨rest', hpath', hroute'⟩ := leads_ofPort_iff.mp h
            obtain ⟨rfl, rfl⟩ : port = port' ∧ rest = rest' := by simpa [hpath] using hpath'
            rw [hroute] at hroute'
            cases hroute'
    | some route =>
        have hleads := leads_ofPort_iff.mpr ⟨rest, hpath, hroute⟩
        by_cases hget : method = "GET"
        · rcases parsePort_cases port with ⟨n, hport⟩ | hport
          · simpa [hget, hport, Except.mapError, Except.map] using
              Routed.ofPort hleads hget hport
          · simpa [hget, hport, Except.mapError, Except.map] using
              Routed.portless hleads hget (by simp [hport])
        · simpa [hget] using Routed.refused hleads (by simp [Place.methods, hget])
  · rename_i hentries hproxy
    refine .unknown fun place h => ?_
    cases place with
    | entries => exact hentries (leads_entries_iff.mp h)
    | ofPort port route =>
        obtain ⟨rest, hpath, -⟩ := leads_ofPort_iff.mp h
        exact hproxy port rest hpath

theorem Routed.execution {method path : String} {outcome : Except Failure Route}
    (h : Routed method path (segments path) outcome) : Route.resolve method path = outcome := by
  cases h with
  | unknown h =>
      unfold Route.resolve
      split
      · rename_i hpath
        exact absurd (leads_entries_iff.mpr hpath) (h _)
      · rename_i port rest hpath
        cases hroute : PortRoute.ofSegments? rest with
        | none => rfl
        | some route => exact absurd (leads_ofPort_iff.mpr ⟨rest, hpath, hroute⟩) (h _)
      · rfl
  | @refused place h hmethod =>
      cases place with
      | entries =>
          have hpath := leads_entries_iff.mp h
          obtain ⟨hget, hdelete⟩ : method ≠ "GET" ∧ method ≠ "DELETE" := by
            simpa [Place.methods] using hmethod
          simp [Route.resolve, hpath, hget, hdelete]
      | ofPort port route =>
          obtain ⟨rest, hpath, hroute⟩ := leads_ofPort_iff.mp h
          have hget : method ≠ "GET" := by simpa [Place.methods] using hmethod
          simp [Route.resolve, hpath, hroute, hget]
  | allEntries h hmethod => simp [Route.resolve, leads_entries_iff.mp h, hmethod]
  | clearEntries h hmethod => simp [Route.resolve, leads_entries_iff.mp h, hmethod]
  | @portless text route h hmethod hport =>
      obtain ⟨rest, hpath, hroute⟩ := leads_ofPort_iff.mp h
      have hfails : parsePort text = .error (.invalidPort text) :=
        (parsePort_cases text).resolve_left fun ⟨port, hok⟩ => hport port hok
      simp [Route.resolve, hpath, hroute, hmethod, hfails, Except.mapError, Except.map]
  | ofPort h hmethod hport =>
      obtain ⟨rest, hpath, hroute⟩ := leads_ofPort_iff.mp h
      simp [Route.resolve, hpath, hroute, hmethod, hport, Except.mapError, Except.map]

theorem resolve_eq_iff {method path : String} {outcome : Except Failure Route} :
    Route.resolve method path = outcome ↔ Routed method path (segments path) outcome := by
  constructor
  · rintro rfl
    exact routed_resolve method path
  · exact Routed.execution

/-! ## Other paths -/

/-- The same failure at another path. -/
def Failure.echoing (path : String) : Failure → Failure
  | .notFound _ => .notFound path
  | .methodNotAllowed method _ => .methodNotAllowed method path
  | f => f

/-- A path does not matter besides its segments, except that failures may tell of it. -/
theorem Routed.echoing {method path : String} {segs : List String} {outcome : Except Failure Route}
    (h : Routed method path segs outcome) (path' : String) :
    Routed method path' segs (outcome.mapError (Failure.echoing path')) := by
  cases h with
  | unknown h => exact .unknown h
  | refused h hmethod => exact .refused h hmethod
  | allEntries h hmethod => exact .allEntries h hmethod
  | clearEntries h hmethod => exact .clearEntries h hmethod
  | portless h hmethod hport => exact .portless h hmethod hport
  | ofPort h hmethod hport => exact .ofPort h hmethod hport

/-- Segments are the same, or one of them is a port that is written in another way. -/
inductive Respelled : List String → List String → Prop
  | refl (segs : List String) : Respelled segs segs
  | port {text text' : String} {port : UInt16} (rest : List String)
      (h : parsePort text = .ok port) (h' : parsePort text' = .ok port) :
      Respelled ("proxy" :: text :: "har" :: rest) ("proxy" :: text' :: "har" :: rest)

/-- What there is to be asked about a port has segments of its own. -/
theorem PortRoute.Named.unique {rest rest' : List String} {route : PortRoute}
    (h : Named rest route) (h' : Named rest' route) : rest = rest' := by
  cases h with
  | archive =>
      cases h'
      rfl
  | entries =>
      cases h'
      rfl
  | mostRecentEntry =>
      cases h'
      rfl
  | check extent h =>
      cases h' with
      | check _ h' => rw [Option.some.inj (h.symm.trans h')]

theorem Routed.respelled {method path path' : String} {segs segs' : List String} {route : Route}
    (h : Routed method path segs (.ok route)) (h' : Routed method path' segs' (.ok route)) :
    Respelled segs segs' := by
  cases h with
  | allEntries h =>
      cases h' with
      | allEntries h' =>
          rw [leads_entries_iff.mp h, leads_entries_iff.mp h']
          exact .refl _
  | clearEntries h =>
      cases h' with
      | clearEntries h' =>
          rw [leads_entries_iff.mp h, leads_entries_iff.mp h']
          exact .refl _
  | ofPort h _ hport =>
      cases h' with
      | ofPort h' _ hport' =>
          obtain ⟨rest, rfl, hroute⟩ := leads_ofPort_iff.mp h
          obtain ⟨rest', rfl, hroute'⟩ := leads_ofPort_iff.mp h'
          rw [(PortRoute.ofSegments?_eq_some_iff.mp hroute).unique
            (PortRoute.ofSegments?_eq_some_iff.mp hroute')]
          exact .port rest' hport hport'

/-- Every path writes one list of segments. A request is routed to where these lead, if its method
is one that is allowed there; slashes make no difference; and two paths are routed alike only if
they are made of the same segments or write the same port in different ways. -/
theorem routing_exact (method path : String) :
    ∃ segs, (∀ segs', PathText segs' path.toList ↔ segs' = segs) ∧
      (∀ outcome, Route.resolve method path = outcome ↔ Routed method path segs outcome) ∧
      (∀ path', PathText segs path'.toList →
        Route.resolve method path' =
          (Route.resolve method path).mapError (Failure.echoing path')) ∧
      ∀ path' segs' route, PathText segs' path'.toList →
        Route.resolve method path = .ok route → Route.resolve method path' = .ok route →
        Respelled segs segs' := by
  refine ⟨segments path, fun segs' => pathText_iff.trans eq_comm, fun _ => resolve_eq_iff, ?_, ?_⟩
  · intro path' hpath'
    rw [resolve_eq_iff, pathText_iff.mp hpath']
    exact (routed_resolve method path).echoing path'
  · intro path' segs' route hpath' h h'
    rw [resolve_eq_iff] at h h'
    rw [pathText_iff.mp hpath'] at h'
    exact h.respelled h'

example : Route.resolve "GET" "//proxy/+080/har/entries//" = .ok (.ofPort 80 .entries) := by
  decide +kernel

end TrafficCapture.Control
