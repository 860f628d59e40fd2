import TrafficCapture.Proofs.Control.Reply
import TrafficCapture.Proofs.Control.Stages
import TrafficCapture.Proofs.Form.Pairs

/-! # Agreement of looks

While the clock stands still, every way to look at the exchanges of a port shows the same ones:
entries by port or with a port as parameter, the most recent entry, the archive, and checks. -/

namespace TrafficCapture

open List

/-! ## Scans while the clock stands still -/

namespace Query

variable {now : Int} {timeout : ℕ}

theorem expired_still {index : ℕ} :
    Expired (some (now + timeout)) (.still now) index ↔ index % batch = 0 ∧ timeout = 0 := by
  unfold Expired
  constructor
  · rintro ⟨hbatch, time, htime, hle⟩
    obtain rfl := Option.some.inj htime
    have hle' : now + timeout ≤ now := hle
    exact ⟨hbatch, by omega⟩
  · rintro ⟨hbatch, rfl⟩
    exact ⟨hbatch, now + (0 : ℕ), rfl, by simp [Clock.still]⟩

variable (now timeout) in
/-- The search from the end finds the last of what the scan from the beginning selects, and it is
given up just when that is. -/
theorem mostRecent_still (ports : PortFilter) (pattern : Pattern) (snapshot : List Exchange) :
    mostRecent (some (now + timeout)) (.still now) ports pattern snapshot =
      (filter (some (now + timeout)) (.still now) ports pattern snapshot).map getLast? := by
  unfold mostRecent filter
  by_cases hnil : snapshot = []
  · rw [hnil]
    rfl
  · by_cases hzero : timeout = 0
    · have hexpired : Expired (some (now + timeout)) (.still now) 0 :=
        expired_still.mpr ⟨rfl, hzero⟩
      rw [filterFrom_of_expired hexpired hnil, findFrom_of_expired hexpired (by simpa using hnil)]
      rfl
    · have htimely : ∀ count, TimelyFrom (some (now + timeout)) (.still now) 0 count :=
        fun _ _ _ hexpired => hzero (expired_still.mp hexpired).2
      rw [filterFrom_of_timely (htimely _), findFrom_of_timely (htimely _),
        find?_reverse_eq_getLast?]
      rfl

end Query

namespace Control

open Query

/-! ## Paths and queries -/

theorem segments_append (front back : String) :
    segments (front ++ "/" ++ back) = segments front ++ segments back := by
  have htext : (front ++ "/" ++ back).toList = front.toList ++ '/' :: back.toList := by simp
  rw [segments, htext, Text.fields_append, filter_append, map_append]
  rfl

theorem segments_of_notMem {text : String} (h : '/' ∉ text.toList) (hne : text ≠ "") :
    segments text = [text] := by
  rw [segments, Text.fields_of_notMem h]
  simp [hne]

section

variable {p : String} (hp : p ≠ "") (hdigits : ∀ c ∈ p.toList, c.isDigit = true)

include hp hdigits in
theorem segments_of_port (tail : String) :
    segments ("/proxy/" ++ p ++ "/har" ++ tail) = "proxy" :: p :: segments ("har" ++ tail) := by
  have hslash : '/' ∉ p.toList := fun hmem => absurd (hdigits '/' hmem) (by decide)
  have hproxy : segments "/proxy" = ["proxy"] := by decide +kernel
  have hfront : "/proxy/" ++ p = "/proxy" ++ "/" ++ p := rfl
  have hback : "/proxy/" ++ p ++ "/har" ++ tail = "/proxy/" ++ p ++ "/" ++ ("har" ++ tail) := by
    have hhar : "/har" = "/" ++ "har" := rfl
    simp only [hhar, String.append_assoc]
  rw [hback, segments_append, hfront, segments_append, segments_of_notMem hslash hp, hproxy]
  rfl

include hp hdigits in
theorem resolve_of_port {tail : String} {rest : List String} {route : PortRoute}
    (htail : segments ("har" ++ tail) = "har" :: rest)
    (hroute : PortRoute.ofSegments? rest = some route) :
    Route.resolve "GET" ("/proxy/" ++ p ++ "/har" ++ tail) =
      ((parsePort p).mapError Failure.query).map (.ofPort · route) := by
  rw [Route.resolve, segments_of_port hp hdigits, htail]
  simp [hroute]

variable {q : String} (hq : '&' ∉ q.toList)

theorem pair_urlPattern (q : String) :
    Form.pair ("urlPattern=" ++ q).toList = ("urlPattern", Form.decode q.toList) := by
  have htext : ("urlPattern=" ++ q).toList = "urlPattern".toList ++ '=' :: q.toList := by simp
  rw [htext, Form.pair_append (by decide), Form.decode_of_plain (Form.plain_of_all (by decide))]
  rfl

include hq in
theorem ofQuery_urlPattern :
    Parameters.ofQuery (some ("urlPattern=" ++ q)) = ⟨[("urlPattern", Form.decode q.toList)]⟩ := by
  have hmem : '&' ∉ ("urlPattern=" ++ q).toList := by
    simpa using hq
  simp only [Parameters.ofQuery, Option.map_some, Option.getD_some]
  rw [Form.pairs_of_notMem hmem (by simp), pair_urlPattern]

include hq hdigits in
theorem ofQuery_urlPattern_port :
    Parameters.ofQuery (some ("urlPattern=" ++ q ++ "&port=" ++ p)) =
      ⟨[("urlPattern", Form.decode q.toList), ("port", p)]⟩ := by
  have htext : ("urlPattern=" ++ q ++ "&port=" ++ p).toList =
      ("urlPattern=" ++ q).toList ++ '&' :: ("port".toList ++ '=' :: p.toList) := by simp
  have hmem : '&' ∉ ("urlPattern=" ++ q).toList := by
    simpa using hq
  have hplain : ∀ c ∈ p.toList, Form.Plain c := fun c hc => Form.plain_of_isDigit (hdigits c hc)
  have hname : Form.decode "port".toList = "port" :=
    Form.decode_of_plain (Form.plain_of_all (by decide))
  have hport : '&' ∉ "port".toList ++ '=' :: p.toList := by
    have hamp : '&' ∉ p.toList := fun hamp => absurd (hdigits '&' hamp) (by decide)
    simpa using hamp
  simp only [Parameters.ofQuery, Option.map_some, Option.getD_some]
  rw [htext, Form.pairs_append, Form.pairs_of_notMem hmem (by simp), pair_urlPattern,
    Form.pairs_of_notMem hport (by simp), Form.pair_append (by decide), hname,
    Form.decode_of_plain hplain]
  simp

end

/-! ## Looks -/

/-- The exchanges of one port whose URL a pattern matches. -/
def Setting.foundAt (s : Setting) (source : String) (port : UInt16) :
    Except Failure (List Exchange) :=
  compile source >>= s.select (.only port)

/-- The exchanges of the port that a text writes whose URL a pattern matches. -/
def Setting.found (s : Setting) (port source : String) : Except Failure (List Exchange) :=
  (parsePort port).mapError .query >>= s.foundAt source

/-- What is answered along with a value, or without one. -/
def told (registry : Registry) : Except Failure Json → Reply × Registry
  | .ok value => (.ofJson value, registry)
  | .error f => (f.reply, registry)

/-- An answer tells a value, and the stores are as they were. -/
structure Shows (answer : Reply × Registry) (registry : Registry) (value : Json) : Prop where
  tells : answer.1.Tells value
  same : answer.2 = registry

/-- An answer tells a failure, and the stores are as they were. -/
structure ShowsFailure (answer : Reply × Registry) (registry : Registry) (f : Failure) : Prop where
  answer : answer = (f.reply, registry)
  refuses : f.reply.Refuses f

theorem shows_ofJson {levels : ℕ} {value : Json} (h : Json.Readable levels value)
    (hlevels : levels < Json.maxDepth) (registry : Registry) :
    Shows (.ofJson value, registry) registry value :=
  ⟨(Reply.tells_iff h hlevels).mpr rfl, rfl⟩

/-- Exchanges as the items of a reply. -/
def items (entries : List Exchange) : List Json :=
  entries.map fun e => (Har.Entry.ofExchange e).toJson

theorem readable_items (entries : List Exchange) : Json.Readable 5 (.list (items entries)) :=
  Json.readable_map Har.Entry.readable entries

/-- The last of the items, or an object without members. -/
theorem readable_lastItem (entries : List Exchange) :
    Json.Readable 4 ((items entries).getLast?.getD (.object [])) := by
  rw [items, getLast?_map]
  cases entries.getLast? with
  | none => exact Json.readable_noMembers
  | some e => exact Har.Entry.readable e

/-- The exchanges that a check is about. -/
def Extent.view : Extent → List Exchange → List Exchange
  | .all, entries => entries
  | .mostRecent, entries => entries.getLast?.toList

/-- Where the checks of an extent are, behind the archive. -/
def Extent.path : Extent → String
  | .all => "/entries/"
  | .mostRecent => "/mostRecentEntry/"

theorem ok_bind {α β : Type} (a : α) (g : α → Except Failure β) : (Except.ok a >>= g) = g a := rfl

/-- The stores, the clock standing still, and so many milliseconds for scans. -/
def Setting.still (registry : Registry) (now : Int) (timeout : ℕ) : Setting :=
  ⟨registry, .still now, some (now + timeout)⟩

theorem selectLast_still (registry : Registry) (now : Int) (timeout : ℕ) (ports : PortFilter)
    (pattern : Pattern) :
    (Setting.still registry now timeout).selectLast ports pattern =
      ((Setting.still registry now timeout).select ports pattern).map getLast? := by
  unfold Setting.selectLast Setting.select
  cases (Setting.still registry now timeout).snapshot with
  | error f => rfl
  | ok snapshot =>
      have hscan := mostRecent_still now timeout ports pattern snapshot
      simp only [ok_bind, Setting.still, hscan]
      cases filter (some (now + timeout)) (.still now) ports pattern snapshot <;> rfl

section

variable (s : Setting) {params : Parameters} {port : UInt16} {source : String}

theorem answerPort_entries (h : params.get? "urlPattern" = some source) :
    s.answerPort params port .entries =
      (s.foundAt source port).map fun entries => .ofJson (.list (items entries)) := by
  simp only [Setting.answerPort, require_eq_ok.mpr h, ok_bind, Setting.foundAt]
  cases compile source with
  | error f => rfl
  | ok pattern =>
      rw [ok_bind, ok_bind]
      cases s.select (.only port) pattern <;> rfl

theorem answerPort_archive :
    s.answerPort params port .archive =
      (s.foundAt ".*" port).map
        fun entries => .ofJson (Har.logToJson (entries.map Har.Entry.ofExchange)) := by
  simp only [Setting.answerPort, Setting.foundAt]
  cases compile ".*" with
  | error f => rfl
  | ok pattern =>
      rw [ok_bind, ok_bind]
      cases s.select (.only port) pattern <;> rfl

variable {s} (hlast : ∀ ports pattern,
  s.selectLast ports pattern = (s.select ports pattern).map getLast?)

include hlast in
theorem answerPort_mostRecentEntry (h : params.get? "urlPattern" = some source) :
    s.answerPort params port .mostRecentEntry =
      (s.foundAt source port).map
        fun entries => .ofJson ((items entries).getLast?.getD (.object [])) := by
  simp only [Setting.answerPort, require_eq_ok.mpr h, ok_bind, Setting.foundAt]
  cases compile source with
  | error f => rfl
  | ok pattern =>
      rw [ok_bind, ok_bind, hlast]
      cases s.select (.only port) pattern with
      | error f => rfl
      | ok entries =>
          simp only [Except.map, ok_bind, items, getLast?_map]
          cases entries.getLast? <;> rfl

theorem urlPattern_of_get? (c : Check) (h : params.get? "urlPattern" = some source)
    (hne : source ≠ "") : c.urlPattern params = .ok (some source) := by
  have hnonEmpty : params.nonEmpty? "urlPattern" = some source := by
    simp [Parameters.nonEmpty?, h, hne]
  cases c with
  | statusEquals => rw [Check.urlPattern, hnonEmpty]
  | statusClass _ => rw [Check.urlPattern, hnonEmpty]
  | _ => exact congrArg (Except.map some) (require_eq_ok.mpr h)

include hlast in
theorem answerPort_check (extent : Extent) {c : Check} {a : Assertion}
    (h : params.get? "urlPattern" = some source) (hne : source ≠ "")
    (ha : c.assertion params = .ok a) :
    s.answerPort params port (.check extent c) =
      (s.foundAt source port).map
        fun entries =>
          .ofJson (a.checkAll ⟨some source, some port⟩ (extent.view entries)).toJson := by
  simp only [Setting.answerPort, urlPattern_of_get? c h hne, ha, ok_bind, Setting.foundAt,
    Option.getD_some]
  cases compile source with
  | error f => rfl
  | ok pattern =>
      rw [ok_bind, ok_bind]
      cases extent with
      | all => cases s.select (.only port) pattern <;> rfl
      | mostRecent =>
          rw [hlast]
          cases s.select (.only port) pattern <;> rfl

variable (s) in
/-- A request of which every answer shows what is found is told of what is found. -/
theorem handle_of_port {p path : String} {query : Option String} {route : PortRoute}
    {shown : List Exchange → Json}
    (hroute : Route.resolve "GET" path =
      ((parsePort p).mapError Failure.query).map (.ofPort · route))
    (hanswer : ∀ port, parsePort p = .ok port → s.answerPort (.ofQuery query) port route =
      (s.foundAt source port).map fun entries => .ofJson (shown entries)) :
    s.handle ⟨"GET", path, query⟩ = told s.registry ((s.found p source).map shown) := by
  unfold Setting.handle Setting.found
  rw [hroute]
  cases hport : parsePort p with
  | error e => rfl
  | ok port =>
      have hroute : s.answer (.ofQuery query) (.ofPort port route) =
          (s.foundAt source port).map
            fun entries => (Reply.ofJson (shown entries), s.registry) := by
        simp only [Setting.answer, hanswer port hport]
        cases s.foundAt source port <;> rfl
      simp only [Except.mapError, Except.map, ok_bind, hroute]
      cases s.foundAt source port <;> rfl

theorem handle_allEntries {p : String} {query : Option String}
    (hpattern : (Parameters.ofQuery query).get? "urlPattern" = some source)
    (hport : (Parameters.ofQuery query).get? "port" = some p) :
    s.handle ⟨"GET", "/entries", query⟩ =
      told s.registry ((s.found p source).map fun entries => .list (items entries)) := by
  have hroute : Route.resolve "GET" "/entries" = .ok .allEntries := by decide +kernel
  unfold Setting.handle Setting.found
  rw [hroute, ok_bind]
  simp only [Setting.answer, Parameters.port?, hport, require_eq_ok.mpr hpattern, ok_bind]
  cases parsePort p with
  | error e => rfl
  | ok port =>
      simp only [Except.mapError, Except.map, ok_bind, Setting.foundAt, PortFilter.only]
      cases compile source with
      | error f => rfl
      | ok pattern =>
          simp only [ok_bind]
          cases s.select ⟨some port⟩ pattern <;> rfl

end

/-- A check has its own name behind its extent. -/
theorem resolve_of_check {p name : String} {c : Check} (hp : p ≠ "")
    (hdigits : ∀ d ∈ p.toList, d.isDigit = true) (h : Check.ofName? name = some c)
    (extent : Extent) :
    Route.resolve "GET" ("/proxy/" ++ p ++ "/har" ++ (extent.path ++ name)) =
      ((parsePort p).mapError Failure.query).map (.ofPort · (.check extent c)) := by
  have hplain : ∀ entry ∈ Check.names, '/' ∉ entry.1.toList ∧ entry.1 ≠ "" := by decide +kernel
  have hmem : (name, c) ∈ Check.names := by
    obtain ⟨front, back, hnames, -⟩ := lookup_eq_some_iff.mp h
    rw [hnames]
    exact mem_append_right front (mem_cons_self ..)
  obtain ⟨hslash, hne⟩ := hplain _ hmem
  cases extent with
  | all =>
      have hfront : segments "har/entries" = ["har", "entries"] := by decide +kernel
      have htail : segments ("har" ++ (Extent.all.path ++ name)) = ["har", "entries", name] := by
        have hcut : "har" ++ (Extent.all.path ++ name) = "har/entries" ++ "/" ++ name := by
          rw [← String.append_assoc]
          rfl
        rw [hcut, segments_append, hfront, segments_of_notMem hslash hne]
        rfl
      exact resolve_of_port hp hdigits htail (by simp [PortRoute.ofSegments?, h])
  | mostRecent =>
      have hfront : segments "har/mostRecentEntry" = ["har", "mostRecentEntry"] := by
        decide +kernel
      have htail : segments ("har" ++ (Extent.mostRecent.path ++ name)) =
          ["har", "mostRecentEntry", name] := by
        have hcut : "har" ++ (Extent.mostRecent.path ++ name) =
            "har/mostRecentEntry" ++ "/" ++ name := by
          rw [← String.append_assoc]
          rfl
        rw [hcut, segments_append, hfront, segments_of_notMem hslash hne]
        rfl
      exact resolve_of_port hp hdigits htail (by simp [PortRoute.ofSegments?, h])

/-! ## Agreement -/

/-- The member of an object. -/
def member? (name : String) : Json → Option Json
  | .object members => members.lookup name
  | _ => none

/-- The requests that a check lists are its verdicts on what it is about, one after another. -/
theorem member?_requests (a : Assertion) (scope : Assertion.Scope) (found : List Exchange) :
    member? "requests" (a.checkAll scope found).toJson =
      some (.list (found.map fun e => (a.verdict e).toJson)) := by
  have hmember : member? "requests" (a.checkAll scope found).toJson =
      some (.list ((found.map a.verdict).map Assertion.Verdict.toJson)) := rfl
  rw [hmember, map_map]
  rfl

/-- The URLs of exchanges, as members of what is shown. -/
def urls (entries : List Exchange) : List (Option Json) :=
  entries.map fun e => some (.text e.url)

/-- The URLs that a check lists are those of the exchanges. -/
theorem urls_checkAll (a : Assertion) (scope : Assertion.Scope) (found : List Exchange) :
    ∃ requests, member? "requests" (a.checkAll scope found).toJson = some (.list requests) ∧
      requests.map (member? "url") = urls found := by
  refine ⟨_, member?_requests a scope found, ?_⟩
  rw [map_map]
  rfl

/-- The URLs of exchanges that are shown as entries are in what is shown of their requests. -/
theorem urls_items (found : List Exchange) :
    (items found).map (fun item => (member? "request" item).bind (member? "url")) =
      urls found := by
  rw [items, map_map]
  rfl

theorem message_checkAll_nil (a : Assertion) (scope : Assertion.Scope) :
    (a.checkAll scope []).message = "0 passed, 0 total" := by
  have hmessage : (a.checkAll scope []).message =
      toString 0 ++ " passed, " ++ toString 0 ++ " total" := rfl
  rw [hmessage]
  decide

/-- An archive holds the items that are shown as entries. -/
theorem entries_logToJson (found : List Exchange) :
    (member? "log" (Har.logToJson (found.map Har.Entry.ofExchange))).bind (member? "entries") =
      some (.list (items found)) := by
  have hitems : (found.map Har.Entry.ofExchange).map Har.Entry.toJson = items found := map_map
  rw [Har.logToJson, hitems]
  rfl

/-- What a request for a path and with a query is answered while the clock stands still. -/
def asked (now : Int) (timeout : ℕ) (registry : Registry) (path : String)
    (query : Option String) : Reply × Registry :=
  handleAt now timeout registry ⟨"GET", path, query⟩

section

variable (now : Int) (timeout : ℕ) (registry : Registry) {p q source : String} (hp : p ≠ "")
  (hdigits : ∀ d ∈ p.toList, d.isDigit = true) {query : Option String}
  (hsource : (Parameters.ofQuery query).get? "urlPattern" = some source)

include hsource in
theorem asked_allEntries (hport : (Parameters.ofQuery query).get? "port" = some p) :
    asked now timeout registry "/entries" query =
      told registry (((Setting.still registry now timeout).found p source).map
        fun found => .list (items found)) :=
  handle_allEntries hsource hport

include hp hdigits hsource in
theorem asked_entries :
    asked now timeout registry ("/proxy/" ++ p ++ "/har" ++ "/entries") query =
      told registry (((Setting.still registry now timeout).found p source).map
        fun found => .list (items found)) := by
  have hpath : segments ("har" ++ "/entries") = ["har", "entries"] := by decide +kernel
  apply handle_of_port (Setting.still registry now timeout) (resolve_of_port hp hdigits hpath rfl)
  intro port _
  exact answerPort_entries _ hsource

include hp hdigits hsource in
theorem asked_mostRecentEntry :
    asked now timeout registry ("/proxy/" ++ p ++ "/har" ++ "/mostRecentEntry") query =
      told registry (((Setting.still registry now timeout).found p source).map
        fun found => (items found).getLast?.getD (.object [])) := by
  have hpath : segments ("har" ++ "/mostRecentEntry") = ["har", "mostRecentEntry"] := by
    decide +kernel
  apply handle_of_port (Setting.still registry now timeout) (resolve_of_port hp hdigits hpath rfl)
  intro port _
  exact answerPort_mostRecentEntry (selectLast_still registry now timeout) hsource

include hp hdigits in
theorem asked_archive (query : Option String) :
    asked now timeout registry ("/proxy/" ++ p ++ "/har") query =
      told registry (((Setting.still registry now timeout).found p ".*").map
        fun found => Har.logToJson (found.map Har.Entry.ofExchange)) := by
  have hpath : segments ("har" ++ "") = ["har"] := by decide +kernel
  have hroute := resolve_of_port hp hdigits hpath rfl
  rw [String.append_empty] at hroute
  apply handle_of_port (Setting.still registry now timeout) hroute
  intro port _
  exact answerPort_archive _

include hp hdigits hsource in
theorem asked_check {port : UInt16} {name : String} {c : Check} {a : Assertion}
    (hport : parsePort p = .ok port) (hname : Check.ofName? name = some c) (hne : source ≠ "")
    (ha : c.assertion (.ofQuery query) = .ok a) (extent : Extent) :
    asked now timeout registry ("/proxy/" ++ p ++ "/har" ++ (extent.path ++ name)) query =
      told registry (((Setting.still registry now timeout).found p source).map
        fun found => (a.checkAll ⟨some source, some port⟩ (extent.view found)).toJson) := by
  apply handle_of_port (Setting.still registry now timeout)
    (resolve_of_check hp hdigits hname extent)
  intro port' hport'
  obtain rfl := Except.ok.inj (hport.symm.trans hport')
  exact answerPort_check (selectLast_still registry now timeout) extent hsource hne ha

end

/-- What is found is found at a port and with a pattern that is not empty. -/
theorem of_found_eq_ok {s : Setting} {p source : String} {found : List Exchange}
    (h : s.found p source = .ok found) :
    (∃ port, parsePort p = .ok port ∧ s.foundAt source port = .ok found) ∧ source ≠ "" := by
  unfold Setting.found at h
  cases hport : parsePort p with
  | error e =>
      rw [hport] at h
      cases h
  | ok port =>
      rw [hport] at h
      have hat : s.foundAt source port = .ok found := h
      refine ⟨⟨port, rfl, hat⟩, ?_⟩
      rintro rfl
      have hempty : compile "" = .error (.query (.invalidPattern "" Pattern.Fault.empty.reason)) :=
        rfl
      rw [Setting.foundAt, hempty] at hat
      cases hat

/-- What the checks of one name answer about exchanges that were found. -/
structure Checked (ask : String → Option String → Reply × Registry) (registry : Registry)
    (archive name : String) (given : Option String) (a : Assertion) (scope : Assertion.Scope)
    (found : List Exchange) : Prop where
  all : Shows (ask (archive ++ ("/entries/" ++ name)) given) registry
    (a.checkAll scope found).toJson
  requests : ∃ requests,
    member? "requests" (a.checkAll scope found).toJson = some (.list requests) ∧
      requests.map (member? "url") = urls found
  items : (items found).map (fun item => (member? "request" item).bind (member? "url")) = urls found
  mostRecent : ∀ e, found.getLast? = some e →
    Shows (ask (archive ++ ("/mostRecentEntry/" ++ name)) given) registry
      (a.checkAll scope [e]).toJson
  nothing : found = [] → ∃ result,
    Shows (ask (archive ++ ("/mostRecentEntry/" ++ name)) given) registry result ∧
      member? "message" result = some (.text "0 passed, 0 total") ∧
      member? "passed" result = some (.bool true)

/-- Entries by port and with the port as a parameter are the same. So are, of the same exchanges,
the most recent entry, the archive, and what checks are about, as they are read in the replies, and
whatever is wrong with the port, the pattern, the store or the deadline is told alike. -/
theorem looks_agree (now : Int) (timeout : ℕ) (registry : Registry) (p q : String) (hp : p ≠ "")
    (hdigits : ∀ d ∈ p.toList, d.isDigit = true) (hq : '&' ∉ q.toList) :
    let ask := asked now timeout registry
    let archive := "/proxy/" ++ p ++ "/har"
    let query := some ("urlPattern=" ++ q)
    let any := some ("urlPattern=" ++ ".*")
    ask "/entries" (some ("urlPattern=" ++ q ++ "&port=" ++ p)) =
        ask (archive ++ "/entries") query ∧
      ((∃ f, ShowsFailure (ask (archive ++ "/entries") query) registry f ∧
          ShowsFailure (ask (archive ++ "/mostRecentEntry") query) registry f) ∨
        ∃ port found, parsePort p = .ok port ∧
          (Setting.still registry now timeout).foundAt (Form.decode q.toList) port = .ok found ∧
          Shows (ask (archive ++ "/entries") query) registry (.list (items found)) ∧
          Shows (ask (archive ++ "/mostRecentEntry") query) registry
            ((items found).getLast?.getD (.object [])) ∧
          (∀ item ∈ items found, item ≠ .object []) ∧
          ∀ name c given a, Check.ofName? name = some c →
            (Parameters.ofQuery given).get? "urlPattern" = some (Form.decode q.toList) →
            c.assertion (.ofQuery given) = .ok a →
            Checked ask registry archive name given a ⟨some (Form.decode q.toList), some port⟩
              found) ∧
      ∀ given,
        (∃ f, ShowsFailure (ask (archive ++ "/entries") any) registry f ∧
          ShowsFailure (ask archive given) registry f) ∨
        ∃ found log, Shows (ask (archive ++ "/entries") any) registry (.list (items found)) ∧
          Shows (ask archive given) registry log ∧
          (member? "log" log).bind (member? "entries") = some (.list (items found)) := by
  intro ask archive query any
  have hplain : (Parameters.ofQuery query).get? "urlPattern" = some (Form.decode q.toList) := by
    rw [ofQuery_urlPattern hq]
    rfl
  have hentries : ask (archive ++ "/entries") query = told registry _ :=
    asked_entries now timeout registry hp hdigits hplain
  refine ⟨?_, ?_, fun given => ?_⟩
  · have hboth := ofQuery_urlPattern_port hdigits hq
    rw [hentries]
    apply asked_allEntries
    · rw [hboth]
      rfl
    · rw [hboth]
      rfl
  · have hrecent : ask (archive ++ "/mostRecentEntry") query = told registry _ :=
      asked_mostRecentEntry now timeout registry hp hdigits hplain
    rw [hentries, hrecent]
    cases hfound : (Setting.still registry now timeout).found p (Form.decode q.toList) with
    | error f => exact .inl ⟨f, ⟨rfl, f.refuses⟩, ⟨rfl, f.refuses⟩⟩
    | ok found =>
        obtain ⟨⟨port, hport, hat⟩, hne⟩ := of_found_eq_ok hfound
        refine .inr ⟨port, found, hport, hat,
          shows_ofJson (readable_items found) (by decide) registry,
          shows_ofJson (readable_lastItem found) (by decide) registry, ?_,
          fun name c given a hname hsource ha => ?_⟩
        · intro item hitem
          obtain ⟨e, -, rfl⟩ := mem_map.mp hitem
          intro hempty
          cases hempty
        · have hcheck := asked_check now timeout registry hp hdigits hsource hport hname hne ha
          rw [hfound] at hcheck
          let scope : Assertion.Scope := ⟨some (Form.decode q.toList), some port⟩
          have hshown (extent : Extent) :
              Shows (ask (archive ++ (extent.path ++ name)) given) registry
                (a.checkAll scope (extent.view found)).toJson := by
            have hanswer : ask (archive ++ (extent.path ++ name)) given =
                (.ofJson (a.checkAll scope (extent.view found)).toJson, registry) := hcheck extent
            rw [hanswer]
            exact shows_ofJson (Assertion.Result.readable _) (by decide) registry
          have hlast := hshown .mostRecent
          refine ⟨hshown .all, urls_checkAll a _ found, urls_items found, fun e he => ?_,
            fun hnil => ?_⟩
          · rw [Extent.view, he] at hlast
            exact hlast
          · rw [hnil] at hlast
            refine ⟨_, hlast, ?_, rfl⟩
            exact congrArg (fun message => some (Json.text message)) (message_checkAll_nil a _)
  · have hany : (Parameters.ofQuery any).get? "urlPattern" = some ".*" := by decide +kernel
    have hentries : ask (archive ++ "/entries") any = told registry _ :=
      asked_entries now timeout registry hp hdigits hany
    have harchive : ask archive given = told registry _ :=
      asked_archive now timeout registry hp hdigits given
    rw [hentries, harchive]
    cases (Setting.still registry now timeout).found p ".*" with
    | error f => exact .inl ⟨f, ⟨rfl, f.refuses⟩, ⟨rfl, f.refuses⟩⟩
    | ok found =>
        exact .inr ⟨found, _, shows_ofJson (readable_items found) (by decide) registry,
          shows_ofJson (Har.readable_logToJson found) (by decide) registry, entries_logToJson found⟩

/-- A store with two exchanges of port 80, of which the later one failed. -/
def twoPages : Registry :=
  let (ref, r) := Registry.new.init 0
  let (_, r) := r.append ref { url := "a", port := 80, status := some 200 }
  (r.append ref { url := "a", port := 80, status := some 404 }).2

theorem looks_agree_twoPages :
    asked 0 1 twoPages "/entries" (some "urlPattern=a&port=80") =
        asked 0 1 twoPages "/proxy/80/har/entries" (some "urlPattern=a") ∧
      ∃ first last : Exchange, (first.status, last.status) = (some 200, some 404) ∧
        Shows (asked 0 1 twoPages "/proxy/80/har/mostRecentEntry" (some "urlPattern=a")) twoPages
          (Har.Entry.ofExchange last).toJson ∧
        Shows (asked 0 1 twoPages "/proxy/80/har/entries/assertStatusEquals"
            (some "urlPattern=a&status=200")) twoPages
          ((Assertion.statusEquals 200).checkAll ⟨some "a", some 80⟩ [first, last]).toJson := by
  obtain ⟨hsame, hlook, -⟩ := looks_agree 0 1 twoPages "80" "a" (by decide)
    (all_eq_true.mp (by decide)) (by decide)
  have hport : parsePort "80" = .ok 80 := by decide +kernel
  have hdecode : Form.decode "a".toList = "a" := by decide +kernel
  have hfound : (Setting.still twoPages 0 1).foundAt "a" 80 =
      .ok [{ sequence := 1, url := "a", port := 80, status := some 200 },
        { sequence := 2, url := "a", port := 80, status := some 404 }] := by
    decide +kernel
  rw [hdecode] at hlook
  rcases hlook with ⟨f, hrefused, -⟩ | ⟨port, found, hport', hfound', -, hlast, -, hchecks⟩
  · have hstatus : (asked 0 1 twoPages "/proxy/80/har/entries" (some "urlPattern=a")).1.status =
        200 := by
      decide +kernel
    exact absurd ((congrArg (·.1.status) hrefused.answer).symm.trans hstatus)
      hrefused.refuses.status.2
  · obtain rfl := Except.ok.inj (hport.symm.trans hport')
    obtain rfl := Except.ok.inj (hfound.symm.trans hfound')
    have hstatus : (Parameters.ofQuery (some "urlPattern=a&status=200")).requireStatus "status" =
        .ok 200 := by
      decide +kernel
    have hassertion : Check.statusEquals.assertion
        (.ofQuery (some "urlPattern=a&status=200")) = .ok (.statusEquals 200) := by
      rw [Check.assertion, hstatus]
      rfl
    have hcheck := hchecks "assertStatusEquals" .statusEquals (some "urlPattern=a&status=200")
      (.statusEquals 200) (by decide) (by decide +kernel) hassertion
    exact ⟨hsame, _, _, rfl, hlast, hcheck.all⟩

end Control

end TrafficCapture
