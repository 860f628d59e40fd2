import Mathlib.Algebra.Group.Int.Defs
import Mathlib.Algebra.Group.Nat.Defs
import TrafficCapture.Proofs.Assertion.Satisfaction
import TrafficCapture.Proofs.Json.RoundTrip

/-! # Sizes in archives

An entry of an archive shows the size of the response as a signed number, and assertions look at
the unsigned one. Both are the same number as long as it is below 2^63. A greater one comes out
negative, although it is within some limits. -/

namespace TrafficCapture.Har

/-- A word of 64 bits as a signed number. -/
def signed (n : UInt64) : ℤ := if n.toNat < 2 ^ 63 then n.toNat else n.toNat - 2 ^ 64

section

variable (n : UInt64)

theorem toInt_toInt64 : n.toInt64.toInt = signed n := by
  have hlt := n.toNat_lt
  have hnat : n.toBitVec.toNat = n.toNat := rfl
  change n.toBitVec.toInt = signed n
  rw [BitVec.toInt_eq_toNat_cond, hnat, signed]
  split <;> split <;> omega

theorem signed_eq_iff : signed n = n.toNat ↔ n.toNat < 2 ^ 63 := by
  unfold signed
  split <;> omega

variable {n} in
theorem signed_of_le (h : 2 ^ 63 ≤ n.toNat) : signed n = n.toNat - 2 ^ 64 :=
  if_neg (Nat.not_lt.mpr h)

/-- What is shown is within a limit just if the number is, unless it is shown negative. -/
theorem within_iff (limit : UInt64) :
    (n.toNat ≤ limit.toNat ↔ 0 ≤ signed n ∧ signed n ≤ limit.toNat) ↔
      n.toNat < 2 ^ 63 ∨ limit.toNat < n.toNat := by
  by_cases h : n.toNat < 2 ^ 63
  · rw [(signed_eq_iff n).mpr h]
    omega
  · have hlt := n.toNat_lt
    rw [signed_of_le (Nat.not_lt.mp h)]
    omega

end

/-- An entry shows a size of the response, in both places that it has for it. -/
structure ShowsSize (entry : Entry) (size : ℤ) : Prop where
  content : entry.response.content.size.toInt = size
  body : entry.response.bodySize.toInt = size

/-- The declared size is shown if there is one, else that of what was captured. -/
theorem size_ofBody (e : Exchange) (mimeType : Option String) :
    (Content.ofBody mimeType e.responseSize e.responseBody).size = e.contentSize.toInt64 := by
  unfold Content.ofBody Exchange.contentSize
  cases e.responseSize with
  | some size => rfl
  | none =>
      cases e.responseBody with
      | none => rfl
      | some body => exact UInt64.toInt64_ofNat'.symm

theorem showsSize_ofExchange (e : Exchange) :
    ShowsSize (Entry.ofExchange e) (signed e.contentSize) := by
  have hsize : (Content.ofBody e.responseType e.responseSize e.responseBody).size.toInt =
      signed e.contentSize := by
    rw [size_ofBody, toInt_toInt64]
  exact ⟨hsize, hsize⟩

/-- Every entry shows one size, also when it is read back after it was written as JSON. It is the
size of the response if and only if that is below 2^63, and 2^64 less elsewhere, which is negative.
A limit admits the response just if what is shown is between zero and the limit, except that it also
admits a size of 2^63 or more that it is not below. -/
theorem shown_size_iff (e : Exchange) :
    ∃ shown, ShowsSize (Entry.ofExchange e) shown ∧
      (∃ entry, Entry.reader.run (Entry.ofExchange e).toJson.render = .ok entry ∧
        ShowsSize entry shown) ∧
      (shown = e.contentSize.toNat ↔ e.contentSize.toNat < 2 ^ 63) ∧
      (2 ^ 63 ≤ e.contentSize.toNat → shown = e.contentSize.toNat - 2 ^ 64) ∧
      ∀ limit : UInt64,
        ((Assertion.contentLengthAtMost limit).check e = none ↔
            0 ≤ shown ∧ shown ≤ limit.toNat) ↔
          e.contentSize.toNat < 2 ^ 63 ∨ limit.toNat < e.contentSize.toNat := by
  refine ⟨signed e.contentSize, showsSize_ofExchange e, ?_, signed_eq_iff _,
    signed_of_le, fun limit => ?_⟩
  · exact ⟨Entry.ofExchange e, (Entry.reads 0 e).run (by decide), showsSize_ofExchange e⟩
  · rw [Assertion.check_eq_none_iff]
    exact within_iff e.contentSize limit

/-- An exchange whose response is said to have 2^63 bytes. -/
def hugeExchange : Exchange := { responseSize := some 0x8000000000000000 }

theorem shown_size_iff_huge :
    ∃ shown, ShowsSize (Entry.ofExchange hugeExchange) shown ∧ shown = -2 ^ 63 ∧
      (Assertion.contentLengthAtMost 0x8000000000000000).check hugeExchange = none := by
  obtain ⟨shown, hshows, -, -, hless, hlimit⟩ := shown_size_iff hugeExchange
  have hshown : shown = -2 ^ 63 := hless (by decide)
  have hdiffers := (hlimit 0x8000000000000000).not.mpr (by decide)
  refine ⟨shown, hshows, hshown, ?_⟩
  by_contra hcomplaint
  exact hdiffers (iff_of_false hcomplaint fun h => absurd h.1 (by omega))

end TrafficCapture.Har
