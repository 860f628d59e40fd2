import TrafficCapture.Assertion
import TrafficCapture.Proofs.Text.Mending
import TrafficCapture.Proofs.Text.Search

/-! # What assertions say

An assertion says something of an exchange. It passes exactly if that is true, and it complains
otherwise. -/

namespace TrafficCapture

open List

/-! ## Families of status codes -/

namespace Http.StatusClass

/-- The codes of a family: a hundred of them, or the ones that belong to no other family. -/
def Covers (code : ℕ) : StatusClass → Prop
  | informational => 100 ≤ code ∧ code < 200
  | success => 200 ≤ code ∧ code < 300
  | redirection => 300 ≤ code ∧ code < 400
  | clientError => 400 ≤ code ∧ code < 500
  | serverError => 500 ≤ code ∧ code < 600
  | unknown => code < 100 ∨ 600 ≤ code

theorem covers_ofCode (code : UInt16) : (ofCode code).Covers code.toNat := by
  unfold ofCode
  split <;> simp only [Covers, imp_false] at * <;> omega

/-- No code belongs to two families. -/
theorem Covers.unique {code : ℕ} {family other : StatusClass} (h : family.Covers code)
    (h' : other.Covers code) : family = other := by
  cases family <;> cases other <;> first | rfl | (simp only [Covers] at h h'; omega)

theorem contains_iff {family : StatusClass} {code : UInt16} :
    family.contains code = true ↔ family.Covers code.toNat := by
  rw [contains, beq_iff_eq]
  constructor
  · rintro rfl
    exact covers_ofCode code
  · exact (covers_ofCode code).unique

end Http.StatusClass

/-! ## Texts and headers -/

/-- The captured response body is the text, or becomes it where it is mended. -/
def Exchange.HasText (e : Exchange) (text : String) : Prop :=
  ∃ body, e.responseBody = some body ∧ Text.Utf8.Mended body (Text.Utf8.encode text)

theorem Exchange.hasText_iff {e : Exchange} {text : String} :
    e.HasText text ↔ e.responseText? = some text := by
  rw [responseText?, Option.map_eq_some_iff]
  refine exists_congr fun body => and_congr_right fun _ => ?_
  rw [Text.Utf8.mended_iff, Text.Utf8.encode_inj, eq_comm]

theorem Exchange.any_responseText? {e : Exchange} {p : String → Bool} :
    e.responseText?.any p = true ↔ ∃ text, e.HasText text ∧ p text = true := by
  simp only [Option.any_eq_true, hasText_iff]

theorem Text.contains_iff {text sought : String} :
    Text.contains text sought = true ↔ sought.toList <:+: text.toList :=
  Text.occursIn_iff_infix

namespace Assertion

/-- A header has a name and a value, and the name is the wanted one, if there is one, up to the case
of ASCII letters. -/
structure Concerns (name : Option String) (header : String × String) : Prop where
  named : header.1 ≠ ""
  valued : header.2 ≠ ""
  wanted : ∀ text, name = some text → Text.lowerAscii header.1 = Text.lowerAscii text

/-- A header has a name that matches, if there is a pattern for it, and a value that does not. -/
structure Offends (name : Option Pattern) (value : Pattern) (header : String × String) : Prop where
  named : header.1 ≠ ""
  valued : header.2 ≠ ""
  wanted : ∀ pattern, name = some pattern → pattern.accepts header.1 = true
  refused : value.accepts header.2 = false

theorem lowerAscii_eq_iff {a b : String} :
    Text.lowerAscii a = Text.lowerAscii b ↔ Text.equalIgnoringCase a b = true := by
  rw [Text.lowerAscii, Text.lowerAscii, String.ofList_inj, Text.equalIgnoringCase, beq_iff_eq]

theorem mem_fullHeaders {e : Exchange} {header : String × String} :
    header ∈ fullHeaders e ↔ header ∈ e.responseHeaders ∧ header.1 ≠ "" ∧ header.2 ≠ "" := by
  simp [fullHeaders]

theorem mem_headersNamed {e : Exchange} {name : Option String} {header : String × String} :
    header ∈ headersNamed e name ↔ header ∈ e.responseHeaders ∧ Concerns name header := by
  rw [headersNamed, mem_filter, mem_fullHeaders, and_assoc]
  refine and_congr_right fun _ => ⟨?_, ?_⟩
  · rintro ⟨⟨hnamed, hvalued⟩, hwanted⟩
    refine ⟨hnamed, hvalued, ?_⟩
    rintro text rfl
    exact lowerAscii_eq_iff.mpr hwanted
  · rintro ⟨hnamed, hvalued, hwanted⟩
    refine ⟨⟨hnamed, hvalued⟩, (Option.all_eq_true _ _).mpr fun text htext => ?_⟩
    exact lowerAscii_eq_iff.mp (hwanted text htext)

theorem offends_iff {name : Option Pattern} {value : Pattern} {header : String × String} :
    Offends name value header ↔ header.1 ≠ "" ∧ header.2 ≠ "" ∧
      (name.all (·.accepts header.1) && !value.accepts header.2) = true := by
  rw [Bool.and_eq_true, Option.all_eq_true, Bool.not_eq_true']
  constructor
  · rintro ⟨hnamed, hvalued, hwanted, hrefused⟩
    exact ⟨hnamed, hvalued, hwanted, hrefused⟩
  · rintro ⟨hnamed, hvalued, hwanted, hrefused⟩
    exact ⟨hnamed, hvalued, hwanted, hrefused⟩

instance (name : Option Pattern) (value : Pattern) : DecidablePred (Offends name value) :=
  fun _ => decidable_of_iff' _ offends_iff

/-- The headers that offend are kept in their order. -/
theorem offendingHeaders_eq (e : Exchange) (name : Option Pattern) (value : Pattern) :
    offendingHeaders e name value = e.responseHeaders.filter (Offends name value ·) := by
  rw [offendingHeaders, fullHeaders, filter_filter]
  refine filter_congr fun header _ => ?_
  rw [Bool.eq_iff_iff, decide_eq_true_iff, offends_iff]
  simp [and_comm, and_assoc]

/-! ## Satisfaction -/

/-- What an assertion says of an exchange. A time or a status that is missing counts as zero. -/
def Satisfied (e : Exchange) : Assertion → Prop
  | responseTimeAtMost limit => (e.timing.total.getD 0).toNat ≤ limit.toNat
  | statusEquals expected => e.status.getD 0 = expected
  | statusBelongsTo family => family.Covers (e.status.getD 0).toNat
  | contentContains text => ∃ content, e.HasText content ∧ text.toList <:+: content.toList
  | contentLacks text => ∀ content, e.HasText content → ¬ text.toList <:+: content.toList
  | contentMatches pattern => ∃ content, e.HasText content ∧ pattern.accepts content = true
  | contentLengthAtMost limit => e.contentSize.toNat ≤ limit.toNat
  | headerContains name value =>
    ∃ header ∈ e.responseHeaders, Concerns name header ∧ value.toList <:+: header.2.toList
  | headerLacks name value =>
    ∀ header ∈ e.responseHeaders, Concerns name header → ¬ value.toList <:+: header.2.toList
  | headersMatch name value => ∀ header ∈ e.responseHeaders, ¬ Offends name value header

section

variable {e : Exchange}

theorem any_headersNamed {name : Option String} {value : String} :
    ((headersNamed e name).any fun header => Text.contains header.2 value) = true ↔
      Satisfied e (.headerContains name value) := by
  simp only [any_eq_true, mem_headersNamed, Text.contains_iff, and_assoc, Satisfied]

/-- An assertion holds of exactly the exchanges of which what it says is true. -/
theorem holds_iff (a : Assertion) : a.holds e = true ↔ Satisfied e a := by
  cases a with
  | responseTimeAtMost limit =>
      rw [holds, decide_eq_true_iff, UInt64.le_iff_toNat_le, UInt32.toNat_toUInt64]
      rfl
  | statusEquals expected => rw [holds, beq_iff_eq, Satisfied]
  | statusBelongsTo family => exact Http.StatusClass.contains_iff
  | contentContains text =>
      simp only [holds, Exchange.any_responseText?, Text.contains_iff, Satisfied]
  | contentLacks text =>
      rw [holds, Bool.not_eq_true', Bool.eq_false_iff, Ne, Exchange.any_responseText?]
      simp only [Text.contains_iff, Satisfied, not_exists, not_and]
  | contentMatches pattern => exact Exchange.any_responseText?
  | contentLengthAtMost limit =>
      rw [holds, decide_eq_true_iff, UInt64.le_iff_toNat_le, Satisfied]
  | headerContains name value => exact any_headersNamed
  | headerLacks name value =>
      rw [holds, Bool.not_eq_true', Bool.eq_false_iff, Ne, any_headersNamed]
      simp only [Satisfied, not_exists, not_and]
  | headersMatch name value =>
      rw [holds, List.isEmpty_iff, offendingHeaders_eq, filter_eq_nil_iff, Satisfied]
      simp only [decide_eq_true_iff]

theorem check_eq_none_iff {a : Assertion} : a.check e = none ↔ Satisfied e a := by
  rw [← holds_iff, check]
  cases a.holds e <;> simp

theorem isSome_check_iff {a : Assertion} : (a.check e).isSome = true ↔ ¬ Satisfied e a := by
  rw [← check_eq_none_iff, Option.isSome_iff_ne_none]

theorem check_eq_some_iff {a : Assertion} {message : String} :
    a.check e = some message ↔ ¬ Satisfied e a ∧ message = a.complaint e := by
  rw [← holds_iff, check]
  cases a.holds e <;> simp [eq_comm]

end

end Assertion

end TrafficCapture
