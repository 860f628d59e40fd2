import Mathlib.Data.List.Forall2
import TrafficCapture.Assertion.Result
import TrafficCapture.Proofs.Assertion.Satisfaction

/-! # Results of assertions

A result has one verdict for each exchange, in their order, and a message that counts the verdicts.
Assertions that contradict each other never agree on an exchange. -/

namespace TrafficCapture.Assertion

open List

/-! ## Counting -/

/-- A verdict is about an exchange: it fails, and says why, unless the exchange is as asserted. -/
structure Judges (a : Assertion) (e : Exchange) (v : Verdict) : Prop where
  url : v.url = e.url
  failed : v.failed = true ↔ ¬ Satisfied e a
  message : v.message.isSome = true ↔ ¬ Satisfied e a

/-- A result is about a list of exchanges and repeats what they were selected by. -/
structure Summarizes (a : Assertion) (scope : Scope) (entries : List Exchange) (r : Result) :
    Prop where
  verdicts : Forall₂ a.Judges entries r.verdicts
  message : ∃ passed, passed + r.failures.length = entries.length ∧
    r.message = toString passed ++ " passed, " ++ toString entries.length ++ " total"
  passed : r.passed = true ↔ ∀ e ∈ entries, Satisfied e a
  failed : r.failed = true ↔ ∃ e ∈ entries, ¬ Satisfied e a
  scope : r.scope = scope

section

variable (a : Assertion) (scope : Scope) (entries : List Exchange)

theorem judges_verdict (e : Exchange) : a.Judges e (a.verdict e) :=
  ⟨rfl, isSome_check_iff, isSome_check_iff⟩

theorem failures_checkAll_eq_nil_iff :
    (a.checkAll scope entries).failures = [] ↔ ∀ e ∈ entries, Satisfied e a := by
  have hmem : (a.checkAll scope entries).failures = (entries.map a.verdict).filter (·.failed) := rfl
  rw [hmem, filter_eq_nil_iff, forall_mem_map]
  refine forall₂_congr fun e _ => ?_
  rw [(judges_verdict a e).failed, not_not]

theorem summarizes_checkAll : Summarizes a scope entries (a.checkAll scope entries) := by
  have hlength : (a.checkAll scope entries).verdicts.length = entries.length := length_map _
  have hle : (a.checkAll scope entries).failures.length ≤ entries.length :=
    hlength ▸ length_filter_le _ _
  refine ⟨?_, ?_, ?_, ?_, rfl⟩
  · rw [checkAll, forall₂_map_right_iff, forall₂_same]
    exact fun e _ => judges_verdict a e
  · refine ⟨entries.length - (a.checkAll scope entries).failures.length, by omega, ?_⟩
    rw [← hlength]
    rfl
  · rw [← failures_checkAll_eq_nil_iff a scope, ← length_eq_zero_iff]
    exact beq_iff_eq
  · have hall := (failures_checkAll_eq_nil_iff a scope entries).not
    rw [← length_eq_zero_iff] at hall
    push Not at hall
    exact bne_iff_ne.trans hall

theorem verdicts_checkAll_append (more : List Exchange) :
    (a.checkAll scope (entries ++ more)).verdicts =
      (a.checkAll scope entries).verdicts ++ (a.checkAll scope more).verdicts :=
  map_append

end

/-! ## Headers that do not match -/

/-- What is said of headers with these names. -/
def offence (name : Option Pattern) (value : Pattern) (names : List String) : String :=
  match name with
  | some name =>
    "Expected headers with names matching pattern: '" ++ name.source ++
      "' to have values matching pattern: '" ++ value.source ++
      "'. Headers names not matching value pattern: '" ++ ",".intercalate names ++ "'"
  | none =>
    "Expected headers values to match pattern: '" ++ value.source ++
      "'. Headers names which values don't match value pattern: " ++ ",".intercalate names

theorem complaint_headersMatch (e : Exchange) (name : Option Pattern) (value : Pattern) :
    (headersMatch name value).complaint e =
      offence name value ((e.responseHeaders.filter (Offends name value ·)).map (·.1)) := by
  rw [← offendingHeaders_eq]
  cases name with
  | none => rfl
  | some name => rfl

/-! ## Contradictions -/

/-- Of every exchange exactly one of two assertions is true. -/
def Contradicts (a b : Assertion) : Prop := ∀ e, a.check e ≠ none ↔ b.check e = none

theorem contradicts_iff {a b : Assertion} :
    a.Contradicts b ↔ ∀ e, ¬ Satisfied e a ↔ Satisfied e b := by
  simp only [Contradicts, ne_eq, check_eq_none_iff]

theorem contentContains_contradicts (text : String) :
    (contentContains text).Contradicts (contentLacks text) := by
  refine contradicts_iff.mpr fun e => ?_
  simp only [Satisfied, not_exists, not_and]

theorem headerContains_contradicts (name : Option String) (value : String) :
    (headerContains name value).Contradicts (headerLacks name value) := by
  refine contradicts_iff.mpr fun e => ?_
  simp only [Satisfied, not_exists, not_and]

end TrafficCapture.Assertion
