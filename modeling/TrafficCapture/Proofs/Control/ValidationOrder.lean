import TrafficCapture.Proofs.Control.Reply
import TrafficCapture.Proofs.Control.Stages

/-! # The order of validation

Of everything that is wrong with a request, its answer tells of what belongs to the earliest stage.
The one exception is a check whose pattern for names of headers is read before the pattern for
their values is asked for. -/

namespace TrafficCapture.Control

open Query

/-! ## What is asked of a request -/

namespace Check

/-- Checks of the status are for any URL unless a pattern is given. -/
def requiresUrl : Check → Bool
  | .statusEquals => false
  | .statusClass _ => false
  | _ => true

/-- The pattern for URLs, if there is one. -/
def url? (c : Check) (p : Parameters) : Option String :=
  if c.requiresUrl then p.get? "urlPattern" else p.nonEmpty? "urlPattern"

/-- What is demanded besides a pattern for URLs. -/
def ownDemands : Check → List Demand
  | .responseTime => [.number "milliseconds"]
  | .statusEquals => [.status "status"]
  | .statusClass _ => []
  | .contentContains => [.nonEmpty "contentText"]
  | .contentLacks => [.nonEmpty "contentText"]
  | .contentMatches => [.given "contentPattern"]
  | .contentLength => [.number "length"]
  | .headerContains => [.nonEmpty "headerValue"]
  | .headerLacks => [.nonEmpty "headerValue"]
  | .headersMatch => [.given "headerValuePattern"]

/-- The patterns that are given besides one for URLs. -/
def ownPatterns (p : Parameters) : Check → List String
  | .contentMatches => (p.get? "contentPattern").toList
  | .headersMatch =>
    (p.nonEmpty? "headerNamePattern").toList ++ (p.get? "headerValuePattern").toList
  | _ => []

/-- A pattern for names of headers is none, and the one for their values is missing. -/
def Misordered (p : Parameters) (c : Check) : Prop :=
  c = .headersMatch ∧ (Demand.given "urlPattern").Met p ∧
    (∃ name, p.nonEmpty? "headerNamePattern" = some name ∧ ¬ Compiles name) ∧
    ¬ (Demand.given "headerValuePattern").Met p

end Check

namespace PortRoute

def extent : PortRoute → Extent
  | .archive => .all
  | .entries => .all
  | .mostRecentEntry => .mostRecent
  | .check extent _ => extent

def demands : PortRoute → List Demand
  | .archive => []
  | .entries => [.given "urlPattern"]
  | .mostRecentEntry => [.given "urlPattern"]
  | .check _ c => (if c.requiresUrl then [.given "urlPattern"] else []) ++ c.ownDemands

def url? (p : Parameters) : PortRoute → Option String
  | .archive => none
  | .entries => p.get? "urlPattern"
  | .mostRecentEntry => p.get? "urlPattern"
  | .check _ c => c.url? p

def ownPatterns (p : Parameters) : PortRoute → List String
  | .check _ c => c.ownPatterns p
  | _ => []

end PortRoute

/-- What a request asks for, whether or not its method and its port will do. -/
inductive Wish where
  | clear
  /-- A look at the exchanges of the port that a text writes, or of all ports. -/
  | look (port : Option String) (route : PortRoute)
  deriving DecidableEq, Repr

def Wish.method : Wish → String
  | .clear => "DELETE"
  | .look .. => "GET"

namespace Request

def parameters (r : Request) : Parameters := .ofQuery r.query

/-- What the path asks for. The one path with two methods asks for a look unless it is to be
cleared. -/
def wish? (r : Request) : Option Wish :=
  match segments r.path with
  | ["entries"] =>
    some (if r.method == "DELETE" then .clear else .look (r.parameters.get? "port") .entries)
  | "proxy" :: port :: "har" :: rest => (PortRoute.ofSegments? rest).map (.look (some port))
  | _ => none

/-- A check of headers with a pattern for their names that is none and without one for their
values, in which nothing is wrong that belongs to an earlier stage. -/
def Misordered (r : Request) : Prop :=
  r.method = "GET" ∧ ∃ port extent c, r.wish? = some (.look (some port) (.check extent c)) ∧
    (∃ number, parsePort port = .ok number) ∧ c.Misordered r.parameters

end Request

/-- The scan that is asked for comes upon the deadline. -/
def PortRoute.TimesOut (s : Setting) (ports : PortFilter) (p : Parameters) (route : PortRoute) :
    Prop :=
  ∃ pattern snapshot, Pattern.compile ((route.url? p).getD ".*") = .ok pattern ∧
    s.snapshot = .ok snapshot ∧ route.extent.Late s ports pattern snapshot

/-- Something that belongs to a stage is wrong with a request, whatever else is. -/
def Faulty (s : Setting) (r : Request) : Stage → Prop
  | .route => r.wish? = none
  | .method => ∃ wish, r.wish? = some wish ∧ r.method ≠ wish.method
  | .port => ∃ port route, r.wish? = some (.look port route) ∧
      ¬ ∃ number, port.mapM parsePort = .ok number
  | .parameters => ∃ port route, r.wish? = some (.look port route) ∧
      ∃ demand ∈ route.demands, ¬ demand.Met r.parameters
  | .pattern => ∃ port route, r.wish? = some (.look port route) ∧
      ∃ source ∈ route.ownPatterns r.parameters ++ (route.url? r.parameters).toList,
        ¬ Compiles source
  | .store => s.registry.current = none
  | .timeout => ∃ port route number, r.wish? = some (.look port route) ∧
      port.mapM parsePort = .ok number ∧ route.TimesOut s ⟨number⟩ r.parameters

/-- A request is refused for something that belongs to a stage, as its reply tells. Nothing
changes. -/
def Refused (s : Setting) (r : Request) (σ : Stage) : Prop :=
  ∃ f : Failure, s.handle r = (f.reply, s.registry) ∧ f.stage = σ ∧
    f.reply.status = σ.status ∧ f.kind ∈ σ.kinds ∧ f.reply.Refuses f

/-! ## Checks -/

theorem compiles_iff {source : String} :
    Compiles source ↔ (Pattern.compile source).isOk = true := by
  unfold Compiles
  cases Pattern.compile source <;> simp [Except.isOk, Except.toBool]

/-- The pattern that stands for an absent one is one. -/
theorem compiles_any : Compiles ".*" := compiles_iff.mpr (by decide +kernel)

theorem compiles_getD (url : Option String) :
    Compiles (url.getD ".*") ↔ ∀ source ∈ url.toList, Compiles source := by
  cases url with
  | none => simp [compiles_any]
  | some source => simp

section

variable (p : Parameters)

theorem urlPattern_inOrder (c : Check) :
    InOrder (fault .parameters (c.requiresUrl = true ∧ ¬ (Demand.given "urlPattern").Met p))
      (c.urlPattern p) := by
  cases c with
  | statusEquals => exact InOrder.of_ok (by simp [Check.requiresUrl])
  | statusClass _ => exact InOrder.of_ok (by simp [Check.requiresUrl])
  | _ =>
      refine ((require_inOrder p "urlPattern").map some).congr fun σ => ?_
      simp [Check.requiresUrl]

variable {p} in
theorem given_of_urlPattern {c : Check} {url : Option String} (h : c.urlPattern p = .ok url)
    (hrequires : c.requiresUrl = true) : (Demand.given "urlPattern").Met p := by
  have horder := urlPattern_inOrder p c
  rw [h] at horder
  by_contra hmissing
  exact horder.not_of_ok ⟨hrequires, hmissing⟩

variable {p} in
theorem urlPattern_eq_ok {c : Check} {url : Option String} (h : c.urlPattern p = .ok url) :
    url = c.url? p := by
  have hrequire : ∀ {value}, (p.require "urlPattern").map some = .ok value →
      value = p.get? "urlPattern" := by
    intro value hvalue
    cases hread : p.require "urlPattern" with
    | ok source =>
        rw [hread] at hvalue
        rw [require_eq_ok.mp hread]
        exact (Except.ok.inj hvalue).symm
    | error f =>
        rw [hread] at hvalue
        cases hvalue
  cases c with
  | statusEquals => exact (Except.ok.inj h).symm
  | statusClass _ => exact (Except.ok.inj h).symm
  | _ => exact hrequire h

theorem mapM_compile_inOrder (source : Option String) :
    InOrder (fault .pattern (∃ text, source = some text ∧ ¬ Compiles text))
      (source.mapM compile) := by
  cases source with
  | none => exact InOrder.of_ok (by simp)
  | some text =>
      have heq : (some text).mapM compile = (compile text).map some := by
        simp only [Option.mapM_some]
        cases compile text <;> rfl
      rw [heq]
      refine ((compile_inOrder text).map some).congr fun σ => ?_
      simp

/-- A demanded parameter is read as a pattern. -/
theorem compile_require_inOrder (name : String) :
    InOrder (fault .parameters (¬ (Demand.given name).Met p) ∪
        fault .pattern (∃ source ∈ (p.get? name).toList, ¬ Compiles source))
      (p.require name >>= compile) := by
  refine (require_inOrder p name).bind (fun source hsource => ?_) ?_
  · refine (compile_inOrder source).congr fun σ => ?_
    simp [require_eq_ok.mp hsource]
  · rintro _ ⟨rfl, -⟩ _ ⟨rfl, -⟩
    decide

theorem headersMatch_inOrder (hurl : (Demand.given "urlPattern").Met p)
    (h : ¬ Check.headersMatch.Misordered p) :
    InOrder (fault .parameters (¬ (Demand.given "headerValuePattern").Met p) ∪
        fault .pattern (∃ source ∈ Check.headersMatch.ownPatterns p, ¬ Compiles source))
      (Check.headersMatch.assertion p) := by
  have heq : Check.headersMatch.assertion p =
      (p.nonEmpty? "headerNamePattern").mapM compile >>= fun name =>
        (p.require "headerValuePattern" >>= compile) >>= fun value =>
          pure (.headersMatch name value) := by
    simp [Check.assertion]
  rw [heq]
  refine ((mapM_compile_inOrder (p.nonEmpty? "headerNamePattern")).bind
    (fun name _ => (compile_require_inOrder p "headerValuePattern").bind_ok fun _ => ⟨_, rfl⟩)
    ?_).congr ?_
  · -- Only here a pattern is read before a parameter is asked for.
    rintro _ ⟨rfl, hname⟩ _ (⟨rfl, hvalue⟩ | ⟨rfl, -⟩)
    · exact absurd ⟨rfl, hurl, hname, hvalue⟩ h
    · exact le_refl _
  · intro σ
    simp only [Check.ownPatterns, Set.mem_union, mem_fault, List.mem_append, Option.mem_toList,
      or_and_right, exists_or, and_or_left]
    exact or_left_comm

variable {p} in
/-- A check that makes one demand and has no pattern of its own. -/
theorem of_demand {α : Type} {d : Demand} {x : Except Failure α}
    (h : InOrder (fault .parameters (¬ d.Met p)) x) (g : α → Assertion) :
    InOrder (fault .parameters (∃ demand ∈ [d], ¬ demand.Met p) ∪
        fault .pattern (∃ source ∈ ([] : List String), ¬ Compiles source))
      (x >>= fun a => pure (g a)) :=
  (h.bind_ok fun a => ⟨g a, rfl⟩).congr fun σ => by simp

/-- Reading the parameters of a check comes upon what they lack before it comes upon patterns that
are none. -/
theorem assertion_inOrder (c : Check)
    (hurl : c.requiresUrl = true → (Demand.given "urlPattern").Met p) (h : ¬ c.Misordered p) :
    InOrder (fault .parameters (∃ demand ∈ c.ownDemands, ¬ demand.Met p) ∪
        fault .pattern (∃ source ∈ c.ownPatterns p, ¬ Compiles source))
      (c.assertion p) := by
  cases c with
  | responseTime => exact of_demand (requireWord64_inOrder p _) .responseTimeAtMost
  | statusEquals => exact of_demand (requireStatus_inOrder p _) .statusEquals
  | statusClass family => exact fun σ => by simp [Check.ownDemands, Check.ownPatterns]
  | contentContains => exact of_demand (requireNonEmpty_inOrder p _) .contentContains
  | contentLacks => exact of_demand (requireNonEmpty_inOrder p _) .contentLacks
  | contentMatches =>
      have hread := (compile_require_inOrder p "contentPattern").bind_ok
        fun pattern => ⟨Assertion.contentMatches pattern, rfl⟩
      rw [bind_assoc] at hread
      refine hread.congr fun σ => ?_
      simp [Check.ownDemands, Check.ownPatterns]
  | contentLength => exact of_demand (requireWord64_inOrder p _) .contentLengthAtMost
  | headerContains => exact of_demand (requireNonEmpty_inOrder p _) (.headerContains _)
  | headerLacks => exact of_demand (requireNonEmpty_inOrder p _) (.headerLacks _)
  | headersMatch => simpa [Check.ownDemands] using headersMatch_inOrder p (hurl rfl) h

/-- The pattern for names is read although the one for values is not given. -/
theorem assertion_of_misordered (c : Check) (h : c.Misordered p) :
    ∃ f : Failure, c.assertion p = .error f ∧ f.stage = .pattern := by
  obtain ⟨rfl, -, ⟨name, hname, hnone⟩, -⟩ := h
  have horder := compile_inOrder name
  cases hcompile : compile name with
  | ok pattern =>
      rw [hcompile] at horder
      exact absurd hnone horder.not_of_ok
  | error f =>
      rw [hcompile] at horder
      refine ⟨f, ?_, horder.1.1⟩
      simp only [Check.assertion, hname, Option.mapM_some, hcompile]
      rfl

end

/-! ## Requests -/

section

variable (s : Setting) (p : Parameters) (ports : PortFilter)

/-- The faults that belong to the pattern for URLs and to the scan with it. -/
def scanFaults (source : String) (extent : Extent) : Set Stage :=
  fault .pattern (¬ Compiles source) ∪ (fault .store (s.registry.current = none) ∪
    fault .timeout (∃ pattern snapshot, Pattern.compile source = .ok pattern ∧
      s.snapshot = .ok snapshot ∧ extent.Late s ports pattern snapshot))

theorem scan_inOrder {α : Type} {extent : Extent} {scan : Pattern → Except Failure α}
    (source : String) (h : ∀ pattern, InOrder (storeFaults s ports pattern extent) (scan pattern)) :
    InOrder (scanFaults s ports source extent) (compile source >>= scan) := by
  refine (compile_inOrder source).bind (fun pattern hpattern => ?_) ?_
  · refine (h pattern).congr fun σ => ?_
    simp [storeFaults, compile_eq_ok.mp hpattern]
  · rintro _ ⟨rfl, -⟩ _ (⟨rfl, -⟩ | ⟨rfl, -⟩) <;> decide

/-- Everything that may be wrong behind the port. -/
def PortRoute.faults (route : PortRoute) : Set Stage :=
  fault .parameters (∃ demand ∈ route.demands, ¬ demand.Met p) ∪
    (fault .pattern (∃ source ∈ route.ownPatterns p, ¬ Compiles source) ∪
      scanFaults s ports ((route.url? p).getD ".*") route.extent)

theorem lowerBound_scanFaults {source : String} {extent : Extent} {σ : Stage}
    (h : σ ∈ scanFaults s ports source extent) : Stage.pattern ≤ σ := by
  rcases h with ⟨rfl, -⟩ | ⟨rfl, -⟩ | ⟨rfl, -⟩ <;> decide

/-- A look that has to have a pattern for URLs and asks for nothing else. -/
theorem required_inOrder {α : Type} {route : PortRoute}
    {scan : Pattern → Except Failure α} (hdemands : route.demands = [.given "urlPattern"])
    (hurl : route.url? p = p.get? "urlPattern") (hown : route.ownPatterns p = [])
    (h : ∀ pattern, InOrder (storeFaults s ports pattern route.extent) (scan pattern)) :
    InOrder (route.faults s p ports)
      (p.require "urlPattern" >>= fun source => compile source >>= scan) := by
  refine ((require_inOrder p "urlPattern").bind
    (ψ := scanFaults s ports ((route.url? p).getD ".*") route.extent) (fun source hsource => ?_)
    ?_).congr ?_
  · rw [hurl, require_eq_ok.mp hsource]
    exact scan_inOrder s ports source h
  · rintro _ ⟨rfl, -⟩ σ hσ
    exact le_trans (by decide) (lowerBound_scanFaults s ports hσ)
  · intro σ
    simp [PortRoute.faults, hdemands, hown]

theorem check_inOrder (port : UInt16) (extent : Extent) {c : Check} (h : ¬ c.Misordered p) :
    InOrder ((PortRoute.check extent c).faults s p (.only port))
      (s.answerPort p port (.check extent c)) := by
  refine ((urlPattern_inOrder p c).bind (fun url hurl =>
    (assertion_inOrder p c (given_of_urlPattern hurl) h).bind
      (ψ := scanFaults s (.only port) ((c.url? p).getD ".*") extent) (fun assertion _ => ?_) ?_)
    ?_).congr ?_
  · rw [← urlPattern_eq_ok hurl]
    refine scan_inOrder s (.only port) (url.getD ".*") fun pattern => ?_
    cases extent with
    | all => exact (select_inOrder s (.only port) pattern).bind_ok fun _ => ⟨_, rfl⟩
    | mostRecent =>
        exact ((selectLast_inOrder s (.only port) pattern).map Option.toList).bind_ok
          fun _ => ⟨_, rfl⟩
  · rintro _ (⟨rfl, -⟩ | ⟨rfl, -⟩) τ hτ
    · exact le_trans (by decide) (lowerBound_scanFaults s _ hτ)
    · exact lowerBound_scanFaults s _ hτ
  · rintro _ ⟨rfl, -⟩ τ ((⟨rfl, -⟩ | ⟨rfl, -⟩) | hτ)
    · exact le_refl _
    · decide
    · exact le_trans (by decide) (lowerBound_scanFaults s _ hτ)
  · intro σ
    cases hrequires : c.requiresUrl <;>
      simp [PortRoute.faults, PortRoute.demands, PortRoute.ownPatterns, PortRoute.url?,
        PortRoute.extent, hrequires, and_or_left, or_assoc]

theorem answerPort_inOrder (port : UInt16) (route : PortRoute)
    (h : ∀ extent c, route = .check extent c → ¬ c.Misordered p) :
    InOrder (route.faults s p (.only port)) (s.answerPort p port route) := by
  cases route with
  | archive =>
      have hscan := scan_inOrder s (.only port) ".*" fun pattern =>
        (select_inOrder s (.only port) pattern).bind_ok fun entries =>
          ⟨Reply.ofJson (Har.logToJson (entries.map Har.Entry.ofExchange)), rfl⟩
      refine hscan.congr fun σ => ?_
      simp [PortRoute.faults, PortRoute.demands, PortRoute.ownPatterns, PortRoute.url?,
        PortRoute.extent]
  | entries =>
      refine required_inOrder s p (.only port) rfl rfl rfl fun pattern => ?_
      exact (select_inOrder s (.only port) pattern).bind_ok fun entries =>
        ⟨Setting.entriesReply entries, rfl⟩
  | mostRecentEntry =>
      refine required_inOrder s p (.only port) rfl rfl rfl fun pattern => ?_
      refine (selectLast_inOrder s (.only port) pattern).bind_ok fun entry => ?_
      cases entry with
      | none => exact ⟨_, rfl⟩
      | some e => exact ⟨_, rfl⟩
  | check extent c => exact check_inOrder s p port extent (h extent c rfl)

/-- A misordered check is refused for a pattern. -/
theorem check_of_misordered (port : UInt16) (extent : Extent) {c : Check} (h : c.Misordered p) :
    ∃ f : Failure, s.answerPort p port (.check extent c) = .error f ∧ f.stage = .pattern := by
  obtain ⟨f, hf, hstage⟩ := assertion_of_misordered p c h
  obtain ⟨rfl, ⟨source, hsource⟩, -⟩ := h
  refine ⟨f, ?_, hstage⟩
  simp only [Setting.answerPort, Check.urlPattern, require_eq_ok.mpr hsource, hf]
  rfl

/-- Behind the port everything that may be wrong is a fault of the request. -/
theorem mem_faults_iff {r : Request} {port : Option String} {route : PortRoute}
    {number : Option UInt16} (hwish : r.wish? = some (.look port route)) (hmethod : r.method = "GET")
    (hport : port.mapM parsePort = .ok number) (σ : Stage) :
    σ ∈ route.faults s r.parameters ⟨number⟩ ↔ Faulty s r σ := by
  cases σ <;>
    simp [PortRoute.faults, scanFaults, Faulty, PortRoute.TimesOut, hwish, hmethod, hport,
      Wish.method, compiles_getD, or_and_right, exists_or]

variable {s} in
/-- Nothing is wrong with the path or the method of a request for what they ask for. -/
theorem Faulty.port_le {r : Request} {wish : Wish} {σ : Stage} (h : Faulty s r σ)
    (hwish : r.wish? = some wish) (hmethod : r.method = wish.method) : Stage.port ≤ σ := by
  cases σ with
  | route => exact absurd (hwish.symm.trans h) (by simp)
  | method =>
      obtain ⟨wish', hwish', hwrong⟩ := h
      obtain rfl := Option.some.inj (hwish.symm.trans hwish')
      exact absurd hmethod hwrong
  | _ => decide

/-- A look answers in order if reading its port does and everything behind it. -/
theorem look_inOrder {α β : Type} {r : Request} {port : Option String} {route : PortRoute}
    {x : Except Failure α} {g : α → Except Failure β}
    (hwish : r.wish? = some (.look port route)) (hmethod : r.method = "GET")
    (hx : InOrder (fault .port (¬ ∃ number, port.mapM parsePort = .ok number)) x)
    (hg : ∀ a, x = .ok a → ∃ number, port.mapM parsePort = .ok number ∧
      InOrder (route.faults s r.parameters ⟨number⟩) (g a)) :
    InOrder {σ | Faulty s r σ} (x >>= g) := by
  cases x with
  | ok a =>
      obtain ⟨number, hnumber, horder⟩ := hg a rfl
      exact horder.congr (mem_faults_iff s hwish hmethod hnumber)
  | error f =>
      obtain ⟨hstage, hnone⟩ := hx.1
      have hleast : IsLeast {σ | Faulty s r σ} .port :=
        ⟨⟨port, route, hwish, hnone⟩, fun τ hτ => hτ.port_le hwish hmethod⟩
      rwa [← hstage] at hleast

/-- What becomes of the method and the path, along with what they ask for. -/
inductive Resolved (r : Request) : Option Wish → Except Failure Route → Prop where
  | unknown : Resolved r none (.error (.notFound r.path))
  | refused (wish : Wish) (h : r.method ≠ wish.method) :
      Resolved r (some wish) (.error (.methodNotAllowed r.method r.path))
  | clear (h : r.method = "DELETE") : Resolved r (some .clear) (.ok .clearEntries)
  | all (h : r.method = "GET") :
      Resolved r (some (.look (r.parameters.get? "port") .entries)) (.ok .allEntries)
  | ofPort (port : String) (route : PortRoute) (h : r.method = "GET") :
      Resolved r (some (.look (some port) route))
        (((parsePort port).mapError Failure.query).map (.ofPort · route))

theorem resolved (r : Request) : Resolved r r.wish? (Route.resolve r.method r.path) := by
  fun_cases Route.resolve r.method r.path with
  | case1 hpath hget =>
      have hmethod : r.method = "GET" := by simpa using hget
      simpa [Request.wish?, hpath, hmethod] using Resolved.all hmethod
  | case2 hpath hget hdelete =>
      have hmethod : r.method = "DELETE" := by simpa using hdelete
      simpa [Request.wish?, hpath, hmethod] using Resolved.clear hmethod
  | case3 hpath hget hdelete =>
      have hmethod : r.method ≠ "GET" := by simpa using hget
      simpa [Request.wish?, hpath, hdelete] using
        Resolved.refused (.look (r.parameters.get? "port") .entries) hmethod
  | case4 port rest hpath hroute =>
      simpa [Request.wish?, hpath, hroute] using Resolved.unknown
  | case5 port rest hpath route hroute hget =>
      have hmethod : r.method ≠ "GET" := by simpa using hget
      simpa [Request.wish?, hpath, hroute] using Resolved.refused (.look (some port) route) hmethod
  | case6 port rest hpath route hroute hget =>
      have hmethod : r.method = "GET" := by simpa using hget
      simpa [Request.wish?, hpath, hroute] using Resolved.ofPort port route hmethod
  | case7 hentries hproxy =>
      simpa [Request.wish?, hentries, hproxy] using Resolved.unknown

/-- All that is done to answer a request. -/
def Setting.dispatch (r : Request) : Except Failure (Reply × Registry) :=
  Route.resolve r.method r.path >>= s.answer r.parameters

theorem dispatch_inOrder (r : Request) (h : ¬ r.Misordered) :
    InOrder {σ | Faulty s r σ} (s.dispatch r) := by
  have hresolved := resolved r
  unfold Setting.dispatch
  generalize hwish : r.wish? = wish at hresolved
  generalize Route.resolve r.method r.path = x at hresolved
  cases hresolved with
  | unknown =>
      refine ⟨hwish, fun τ _ => ?_⟩
      change Stage.route ≤ τ
      cases τ <;> decide
  | refused wish hmethod =>
      refine ⟨⟨wish, hwish, hmethod⟩, fun τ hτ => ?_⟩
      change Stage.method ≤ τ
      cases τ with
      | route => exact absurd (hwish.symm.trans hτ) (by simp)
      | _ => decide
  | clear hmethod =>
      refine ((get_inOrder s).bind_ok fun ref => ⟨_, rfl⟩).congr fun σ => ?_
      cases σ <;> simp [Faulty, hwish, hmethod, Wish.method]
  | all hmethod =>
      change InOrder _ (r.parameters.port? "port" >>= _)
      refine look_inOrder s hwish hmethod (port?_inOrder r.parameters "port") fun number hport => ?_
      refine ⟨number, port?_eq_ok.mp hport, ?_⟩
      refine required_inOrder s r.parameters ⟨number⟩ rfl rfl rfl fun pattern => ?_
      exact (select_inOrder s ⟨number⟩ pattern).bind_ok fun entries => ⟨_, rfl⟩
  | ofPort port route hmethod =>
      refine look_inOrder s hwish hmethod ?_ fun found hfound => ?_
      · refine ((parsePort_inOrder port).map _).congr fun σ => ?_
        simp only [Option.mapM_some]
        cases parsePort port <;> simp
      · cases hport : parsePort port with
        | error e =>
            rw [hport] at hfound
            cases hfound
        | ok number =>
            rw [hport] at hfound
            obtain rfl := Except.ok.inj hfound
            refine ⟨number, by simp [hport], ?_⟩
            refine (answerPort_inOrder s r.parameters number route ?_).bind_ok
              fun reply => ⟨_, rfl⟩
            rintro extent c rfl hmisordered
            exact h ⟨hmethod, port, extent, c, hwish, ⟨number, hport⟩, hmisordered⟩

end

/-! ## Answers -/

/-- Whatever a computation returns has the property. -/
def Ensures {α : Type} (post : α → Prop) (x : Except Failure α) : Prop := ∀ a, x = .ok a → post a

namespace Ensures

variable {α β : Type} {pre : α → Prop} {post : β → Prop} {x : Except Failure α}
  {g : α → Except Failure β}

theorem pure {b : β} (h : post b) : Ensures post (Pure.pure b) := by
  intro b' heq
  rwa [← Except.ok.inj heq]

theorem bind (hx : Ensures pre x) (hg : ∀ a, pre a → Ensures post (g a)) :
    Ensures post (x >>= g) := by
  cases x with
  | ok a => exact hg a (hx a rfl)
  | error f => exact fun b heq => by cases heq

theorem after (hg : ∀ a, Ensures post (g a)) : Ensures post (x >>= g) := by
  have hx : Ensures (fun _ => True) x := fun _ _ => trivial
  exact hx.bind fun a _ => hg a

end Ensures

section

variable (s : Setting) (r : Request)

theorem answerPort_ensures (p : Parameters) (port : UInt16) (route : PortRoute) :
    Ensures (fun reply => reply.status = 200) (s.answerPort p port route) := by
  cases route with
  | archive => exact .after fun _ => .after fun _ => .pure rfl
  | entries => exact .after fun _ => .after fun _ => .after fun _ => .pure rfl
  | mostRecentEntry =>
      refine .after fun _ => .after fun _ => .after fun entry => ?_
      cases entry with
      | none => exact .pure rfl
      | some e => exact .pure rfl
  | check extent c =>
      refine .after fun _ => .after fun _ => .after fun _ => ?_
      cases extent with
      | all => exact .after fun _ => .pure rfl
      | mostRecent => exact .after fun _ => .pure rfl

theorem answer_ensures (p : Parameters) (route : Route) :
    Ensures (fun answer => answer.1.status = 200) (s.answer p route) := by
  cases route with
  | allEntries => exact .after fun _ => .after fun _ => .after fun _ => .after fun _ => .pure rfl
  | clearEntries => exact .after fun _ => .pure rfl
  | ofPort port route => exact (answerPort_ensures s p port route).bind fun _ h => .pure h

theorem dispatch_ensures : Ensures (fun answer => answer.1.status = 200) (s.dispatch r) :=
  .after fun route => answer_ensures s r.parameters route

theorem dispatch_of_misordered (h : r.Misordered) :
    ∃ f : Failure, s.dispatch r = .error f ∧ f.stage = .pattern := by
  obtain ⟨hmethod, port, extent, c, hwish, ⟨number, hport⟩, hmisordered⟩ := h
  obtain ⟨f, hf, hstage⟩ := check_of_misordered s r.parameters number extent hmisordered
  refine ⟨f, ?_, hstage⟩
  have hresolved := resolved r
  unfold Setting.dispatch
  generalize hwish' : r.wish? = wish at hresolved
  generalize Route.resolve r.method r.path = x at hresolved
  rw [hwish] at hwish'
  cases hresolved with
  | unknown => cases hwish'
  | refused _ hwrong =>
      obtain rfl := Option.some.inj hwish'
      exact absurd hmethod hwrong
  | clear => cases hwish'
  | all => exact absurd (Wish.look.inj (Option.some.inj hwish')).2 (by simp)
  | ofPort _ _ _ =>
      obtain ⟨rfl, rfl⟩ : port = _ ∧ PortRoute.check extent c = _ := by simpa using hwish'
      have hanswer : s.answer r.parameters (.ofPort number (.check extent c)) = .error f := by
        simp only [Setting.answer, hf]
        rfl
      rw [hport]
      exact hanswer

theorem isLeast_of_misordered (h : r.Misordered) :
    IsLeast {σ | Faulty s r σ} .parameters := by
  obtain ⟨hmethod, port, extent, c, hwish, ⟨number, hport⟩, rfl, -, -, hmissing⟩ := h
  refine ⟨⟨_, _, hwish, .given "headerValuePattern", ?_, hmissing⟩, fun τ hτ => ?_⟩
  · simp [PortRoute.demands, Check.ownDemands]
  · have hle : Stage.port ≤ τ := Faulty.port_le hτ hwish hmethod
    cases τ with
    | port =>
        obtain ⟨port', route, hwish', hnone⟩ := hτ
        obtain ⟨rfl, -⟩ := Wish.look.inj (Option.some.inj (hwish.symm.trans hwish'))
        exact absurd ⟨some number, by simp [hport]⟩ hnone
    | route => exact absurd hle (by decide)
    | method => exact absurd hle (by decide)
    | _ => decide

theorem handle_eq : s.handle r =
    match s.dispatch r with
    | .ok answer => answer
    | .error f => (f.reply, s.registry) := rfl

variable {s r} in
theorem refused_of_dispatch {f : Failure} (h : s.dispatch r = .error f) : Refused s r f.stage := by
  refine ⟨f, ?_, rfl, f.status_eq_stage, f.kind_mem_stage, f.refuses⟩
  rw [handle_eq, h]

/-- A request that nothing is wrong with succeeds. Any other is refused for what belongs to the
earliest stage at which something is wrong, unless it is a check of headers without a pattern for
their values and with one for their names that is none: that is refused for the pattern. -/
theorem refused_in_order :
    (¬ r.Misordered →
      ((∀ σ, ¬ Faulty s r σ) ∧ (s.handle r).1.status = 200) ∨
        ∃ σ, IsLeast {σ | Faulty s r σ} σ ∧ Refused s r σ) ∧
    (r.Misordered → IsLeast {σ | Faulty s r σ} .parameters ∧ Refused s r .pattern) := by
  refine ⟨fun h => ?_, fun h => ⟨isLeast_of_misordered s r h, ?_⟩⟩
  · have horder := dispatch_inOrder s r h
    cases hdispatch : s.dispatch r with
    | ok answer =>
        rw [hdispatch] at horder
        refine .inl ⟨horder, ?_⟩
        rw [handle_eq, hdispatch]
        exact dispatch_ensures s r answer hdispatch
    | error f =>
        rw [hdispatch] at horder
        exact .inr ⟨f.stage, horder, refused_of_dispatch hdispatch⟩
  · obtain ⟨f, hf, hstage⟩ := dispatch_of_misordered s r h
    rw [← hstage]
    exact refused_of_dispatch hf

end

/-- A check of headers with a pattern for names that is none and without one for values. -/
def valuelessCheck : Request where
  method := "GET"
  path := "/proxy/80/har/entries/assertResponseHeaderMatches"
  query := some "urlPattern=.*&headerNamePattern=("

/-- A request for entries in which the port, the pattern and the store are wrong. -/
def portlessLook : Request where
  method := "GET"
  path := "/proxy/99999/har/entries"
  query := some "urlPattern=("

theorem refused_in_order_both :
    (¬ portlessLook.Misordered ∧ Refused ⟨.new, .still 0, none⟩ portlessLook .port) ∧
    (valuelessCheck.Misordered ∧
      IsLeast {σ | Faulty ⟨.new, .still 0, none⟩ valuelessCheck σ} .parameters ∧
      Refused ⟨.new, .still 0, none⟩ valuelessCheck .pattern) := by
  have hlook : portlessLook.wish? = some (.look (some "99999") .entries) := by decide +kernel
  have hregular : ¬ portlessLook.Misordered := by
    rintro ⟨-, port, extent, c, hwish, -⟩
    rw [hlook] at hwish
    cases hwish
  have hport : Stage.port ∈ {σ | Faulty ⟨.new, .still 0, none⟩ portlessLook σ} := by
    refine ⟨some "99999", .entries, hlook, ?_⟩
    have hnone : parsePort "99999" = .error (.invalidPort "99999") := by decide +kernel
    simp [hnone]
  have hcheck : valuelessCheck.Misordered := by
    refine ⟨rfl, "80", .all, .headersMatch, by decide +kernel, ⟨80, by decide +kernel⟩, rfl,
      ⟨".*", by decide +kernel⟩, ⟨"(", by decide +kernel, ?_⟩, ?_⟩
    · rw [compiles_iff]
      decide +kernel
    · rintro ⟨value, hvalue⟩
      have hnone : valuelessCheck.parameters.get? "headerValuePattern" = none := by decide +kernel
      rw [hnone] at hvalue
      cases hvalue
  refine ⟨⟨hregular, ?_⟩, hcheck, (refused_in_order _ _).2 hcheck⟩
  rcases (refused_in_order ⟨.new, .still 0, none⟩ portlessLook).1 hregular with
    ⟨hnone, -⟩ | ⟨σ, hleast, hrefused⟩
  · exact absurd hport (hnone .port)
  · have hle : σ ≤ .port := hleast.2 hport
    have hge : Stage.port ≤ σ := Faulty.port_le hleast.1 hlook rfl
    rwa [le_antisymm hle hge] at hrefused

end TrafficCapture.Control
