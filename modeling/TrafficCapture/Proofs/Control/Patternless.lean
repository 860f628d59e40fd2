import TrafficCapture.Proofs.Control.Agreement
import TrafficCapture.Proofs.Pattern.Line
import TrafficCapture.Proofs.Store.History

/-! # Looks without a pattern

The archive of a port, and checks of the status without a pattern, stand for any URL. They take
`.*` for it, which asks for a single line. -/

namespace TrafficCapture.Control

open List Query

/-- The checks that can do without a pattern for URLs. -/
inductive Check.OfStatus : Check → Prop where
  | equals : OfStatus .statusEquals
  | family (family : Http.StatusClass) : OfStatus (.statusClass family)

/-- No pattern for URLs is given, or an empty one. -/
def Parameters.Patternless (params : Parameters) : Prop :=
  ∀ source, params.get? "urlPattern" = some source → source = ""

theorem Check.OfStatus.urlPattern {c : Check} {params : Parameters} (hc : c.OfStatus)
    (h : params.Patternless) : c.urlPattern params = .ok none := by
  have hnone : params.nonEmpty? "urlPattern" = none := by
    rw [Parameters.nonEmpty?, Option.filter_eq_none_iff]
    intro source hsource
    simp [h source hsource]
  cases hc with
  | equals => rw [Check.urlPattern, hnone]
  | family family => rw [Check.urlPattern, hnone]

/-- A port is never written by nothing. -/
theorem ne_empty_of_parsePort {p : String} {port : UInt16} (h : parsePort p = .ok port) :
    p ≠ "" := by
  rintro rfl
  have hempty : parsePort "" = .error (.invalidPort "") := by decide +kernel
  cases hempty.symm.trans h

/-- The exchanges of one port. -/
def ofPort (port : UInt16) (entries : List Exchange) : List Exchange :=
  entries.filter fun e => e.port = port

/-- The exchanges whose URL is a single line. -/
def singleLine (entries : List Exchange) : List Exchange :=
  entries.filter fun e => '\n' ∉ e.url.toList

theorem selects_line (port : UInt16) (source : String) (e : Exchange) :
    selects (.only port) ⟨source, Pattern.line false⟩ e =
      (decide (e.port = port) && decide ('\n' ∉ e.url.toList)) := by
  have hline : (⟨source, Pattern.line false⟩ : Pattern).accepts e.url =
      decide ('\n' ∉ e.url.toList) := by
    rw [Bool.eq_iff_iff, Pattern.accepts_line, decide_eq_true_eq]
  have hport : (PortFilter.only port).admits e = decide (e.port = port) := by
    rw [PortFilter.only, PortFilter.admits, Option.all_some, BEq.comm]
    rfl
  rw [selects, hline, hport]

section

variable {s : Setting} {entries : List Exchange} {port : UInt16}

/-- In time, everything at the port is found whose URL is a single line. -/
theorem foundAt_dotStar (hentries : s.snapshot = .ok entries)
    (htimely : ¬ Overdue s.deadline s.clock entries.length) :
    s.foundAt ".*" port = .ok (singleLine (ofPort port entries)) := by
  have hcompile : compile ".*" = .ok ⟨".*", Pattern.line false⟩ := by
    rw [compile, Query.compile, Pattern.compile_dotStar]
    rfl
  have hscan : Query.filter s.deadline s.clock (.only port) ⟨".*", Pattern.line false⟩ entries =
      .ok (singleLine (ofPort port entries)) := by
    rcases filter_spec s.deadline s.clock (.only port) ⟨".*", Pattern.line false⟩ entries with
      ⟨hlate, -⟩ | ⟨-, hall⟩
    · exact absurd hlate htimely
    · rw [hall, singleLine, ofPort, filter_filter]
      refine congrArg Except.ok (filter_congr fun e _ => ?_)
      rw [selects_line, Bool.and_comm]
  rw [Setting.foundAt, hcompile, ok_bind, Setting.select, hentries, ok_bind, hscan]
  rfl

variable (s) in
/-- A check of the status without a pattern is about everything that `.*` finds. -/
theorem answerPort_ofStatus {params : Parameters} {c : Check} {a : Assertion} (hc : c.OfStatus)
    (h : params.Patternless) (ha : c.assertion params = .ok a) :
    s.answerPort params port (.check .all c) = (s.foundAt ".*" port).map
      fun entries => .ofJson (a.checkAll ⟨none, some port⟩ entries).toJson := by
  simp only [Setting.answerPort, hc.urlPattern h, ha, ok_bind, Setting.foundAt, Option.getD_none]
  cases compile ".*" with
  | error f => rfl
  | ok pattern =>
      rw [ok_bind, ok_bind]
      cases s.select (.only port) pattern <;> rfl

end

/-- In time, the archive of a port and the checks of the status without a pattern are about the
same exchanges of the port, oldest first: those whose URL is a single line. These are all of them
just if none has a URL with a line feed. -/
theorem patternless_looks {s : Setting} {ref : StoreRef} (hcurrent : s.registry.get = .ok ref)
    {capacity : ℕ} {steps : List Store.Step}
    (hstore : s.registry.store ref = ((Store.new capacity).run steps).2)
    (htimely : ¬ Overdue s.deadline s.clock (Store.held capacity steps).length) {p : String}
    {port : UInt16} (hdigits : ∀ d ∈ p.toList, d.isDigit = true) (hport : parsePort p = .ok port) :
    let entries := ofPort port (Store.held capacity steps)
    let archive := "/proxy/" ++ p ++ "/har"
    (∀ query, ∃ log, Shows (s.handle ⟨"GET", archive, query⟩) s.registry log ∧
        log = Har.logToJson ((singleLine entries).map Har.Entry.ofExchange) ∧
        (member? "log" log).bind (member? "entries") =
          some (.list (items (singleLine entries)))) ∧
      (∀ name c query a, Check.ofName? name = some c → c.OfStatus →
        (Parameters.ofQuery query).Patternless → c.assertion (.ofQuery query) = .ok a →
        ∃ result, Shows (s.handle ⟨"GET", archive ++ ("/entries/" ++ name), query⟩) s.registry
            result ∧
          result = (a.checkAll ⟨none, some port⟩ (singleLine entries)).toJson ∧
          member? "requests" result =
            some (.list ((singleLine entries).map fun e => (a.verdict e).toJson))) ∧
      ((Store.appends steps).length < UInt64.size →
        (singleLine entries).Pairwise fun e f => e.sequence < f.sequence) ∧
      (singleLine entries = entries ↔ ∀ e ∈ entries, '\n' ∉ e.url.toList) := by
  intro entries archive
  have hp := ne_empty_of_parsePort hport
  have hsnapshot : s.snapshot = .ok (Store.held capacity steps) := by
    rw [Setting.snapshot, hcurrent, ← (Store.agrees_run_new capacity steps).entries, ← hstore]
    rfl
  have hfound : s.found p ".*" = .ok (singleLine entries) := by
    rw [Setting.found, hport]
    exact foundAt_dotStar hsnapshot htimely
  refine ⟨fun query => ?_, ?_, fun hcount => ?_, ?_⟩
  · have hpath : segments ("har" ++ "") = ["har"] := by decide +kernel
    have hroute := resolve_of_port hp hdigits hpath rfl
    rw [String.append_empty] at hroute
    have hasked : s.handle ⟨"GET", archive, query⟩ = told s.registry _ :=
      handle_of_port s hroute fun _ _ => answerPort_archive s
    refine ⟨_, ?_, rfl, entries_logToJson _⟩
    rw [hasked, hfound]
    exact shows_ofJson (Har.readable_logToJson _) (by decide) s.registry
  · intro name c query a hname hc hless ha
    refine ⟨_, ?_, rfl, member?_requests a _ _⟩
    have hroute := resolve_of_check hp hdigits hname .all
    have hanswer : ∀ port', parsePort p = .ok port' →
        s.answerPort (.ofQuery query) port' (.check .all c) = (s.foundAt ".*" port').map
          fun entries => .ofJson (a.checkAll ⟨none, some port⟩ entries).toJson := by
      intro port' hport'
      obtain rfl := Except.ok.inj (hport.symm.trans hport')
      exact answerPort_ofStatus s hc hless ha
    have hasked : s.handle ⟨"GET", archive ++ ("/entries/" ++ name), query⟩ =
        told s.registry _ :=
      handle_of_port s hroute hanswer
    rw [hasked, hfound]
    exact shows_ofJson (Assertion.Result.readable _) (by decide) s.registry
  · exact ((Store.pairwise_held capacity hcount).filter _).filter _
  · simp [singleLine, filter_eq_self]

/-- Two exchanges of port 80, of which the later one has a line feed in its URL. -/
def lineFeedSteps : List Store.Step :=
  [.append { url := "a", port := 80 }, .append { url := "a\nb", port := 80 }]

theorem patternless_looks_lineFeed :
    let s := Setting.still ⟨#[((Store.new 0).run lineFeedSteps).2], some ⟨0⟩⟩ 0 1
    let first : Exchange := { url := "a", port := 80, sequence := 1 }
    let last : Exchange := { url := "a\nb", port := 80, sequence := 2 }
    s.snapshot = .ok [first, last] ∧
      Shows (s.handle ⟨"GET", "/proxy/80/har", none⟩) s.registry
        (Har.logToJson [Har.Entry.ofExchange first]) ∧
      Shows (s.handle ⟨"GET", "/proxy/80/har/entries/assertStatusSuccess", none⟩) s.registry
        ((Assertion.statusBelongsTo .success).checkAll ⟨none, some 80⟩ [first]).toJson := by
  intro s first last
  have hport : parsePort "80" = .ok 80 := by decide +kernel
  have hdigits : ∀ d ∈ "80".toList, d.isDigit = true := all_eq_true.mp (by decide)
  have hsingle : singleLine (ofPort 80 (Store.held 0 lineFeedSteps)) = [first] := by
    decide +kernel
  have htimely : ¬ Overdue s.deadline s.clock (Store.held 0 lineFeedSteps).length := by
    decide +kernel
  have hless : (Parameters.ofQuery none).Patternless := by
    intro source hsource
    cases hsource
  have hcurrent : s.registry.get = .ok ⟨0⟩ := rfl
  have hstore : s.registry.store ⟨0⟩ = ((Store.new 0).run lineFeedSteps).2 := rfl
  obtain ⟨harchive, hcheck, -, -⟩ := patternless_looks hcurrent hstore htimely hdigits hport
  rw [hsingle] at harchive hcheck
  obtain ⟨_, hlog, rfl, -⟩ := harchive none
  obtain ⟨_, hasked, rfl, -⟩ := hcheck "assertStatusSuccess" (.statusClass .success) none
    (.statusBelongsTo .success) (by decide) (.family .success) hless rfl
  exact ⟨by decide +kernel, hlog, hasked⟩

end TrafficCapture.Control
