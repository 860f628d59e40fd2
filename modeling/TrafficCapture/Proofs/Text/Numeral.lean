import Mathlib.Data.List.DropRight
import Mathlib.Data.List.Forall2
import Mathlib.Data.List.TakeDrop
import Mathlib.Data.Nat.Notation
import Mathlib.Tactic.IntervalCases
import TrafficCapture.Text.Numeral
import TrafficCapture.Text.Search

/-! # Numerals

Digits, of which there is at least one, are read as the number that they stand for if that is not
too great. -/

namespace TrafficCapture.Text

open List

/-! ## Digits in either case -/

/-- A digit of a number in base sixteen, in either case. -/
def HexDigit (n : ℕ) (c : Char) : Prop :=
  "0123456789abcdef".toList[n]? = some c ∨ "0123456789ABCDEF".toList[n]? = some c

/-- A digit is a letter or a numeral, and it is read as its value. -/
theorem HexDigit.spec {n : ℕ} {c : Char} (h : HexDigit n c) :
    c.isAlphanum = true ∧ c.toNat < 0x80 ∧ hexDigit? c = some n := by
  have hall : ∀ digits ∈ ["0123456789abcdef".toList, "0123456789ABCDEF".toList],
      ∀ digit ∈ digits.zipIdx,
        digit.1.isAlphanum = true ∧ digit.1.toNat < 0x80 ∧ hexDigit? digit.1 = some digit.2 := by
    decide
  rcases h with h | h
  · exact hall _ mem_cons_self (c, n) (mem_zipIdx_iff_getElem?.mpr h)
  · exact hall _ (mem_cons_of_mem _ mem_cons_self) (c, n) (mem_zipIdx_iff_getElem?.mpr h)

/-- A digit is no blank. -/
theorem HexDigit.not_isBlank {n : ℕ} {c : Char} (h : HexDigit n c) : isBlank c = false := by
  have hdigits : "0123456789abcdef".toList.any isBlank = false ∧
      "0123456789ABCDEF".toList.any isBlank = false := by decide
  rw [any_eq_false, any_eq_false] at hdigits
  rw [Bool.eq_false_iff]
  rcases h with h | h
  · exact hdigits.1 c (mem_of_getElem? h)
  · exact hdigits.2 c (mem_of_getElem? h)

theorem hexDigit?_eq_some_iff {c : Char} {n : ℕ} : hexDigit? c = some n ↔ HexDigit n c := by
  refine ⟨fun h => ?_, fun h => h.spec.2.2⟩
  have hle : ∀ a b : Char, a ≤ b ↔ a.toNat ≤ b.toNat := fun _ _ => UInt32.le_iff_toNat_le
  rw [← Char.ofNat_toNat c]
  simp only [hexDigit?, Bool.and_eq_true, decide_eq_true_eq, hle] at h
  generalize c.toNat = m at h
  split at h
  · rename_i hrange
    obtain ⟨hlow, hhigh⟩ : 48 ≤ m ∧ m ≤ 57 := hrange
    obtain rfl := Option.some.inj h
    interval_cases m <;> exact .inl rfl
  split at h
  · rename_i hrange
    obtain ⟨hlow, hhigh⟩ : 97 ≤ m ∧ m ≤ 102 := hrange
    obtain rfl := Option.some.inj h
    interval_cases m <;> exact .inl rfl
  split at h
  · rename_i hrange
    obtain ⟨hlow, hhigh⟩ : 65 ≤ m ∧ m ≤ 70 := hrange
    obtain rfl := Option.some.inj h
    interval_cases m <;> exact .inr rfl
  · cases h

/-- The values of digits below the radix. -/
abbrev Spells (radix : ℕ) : List ℕ → List Char → Prop :=
  Forall₂ fun d c => d < radix ∧ HexDigit d c

/-- The number that the digits `ds` stand for, behind those that stand for `value`. -/
def numberOf (radix value : ℕ) (ds : List ℕ) : ℕ := ds.foldl (fun n d => n * radix + d) value

/-- One or more digits, with or without a plus sign, and the number that they stand for. -/
inductive Numeral (radix : ℕ) : List Char → ℕ → Prop
  | bare {digits : List Char} {ds : List ℕ} (h : Spells radix ds digits) (hne : ds ≠ []) :
      Numeral radix digits (numberOf radix 0 ds)
  | signed {digits : List Char} {ds : List ℕ} (h : Spells radix ds digits) (hne : ds ≠ []) :
      Numeral radix ('+' :: digits) (numberOf radix 0 ds)

section

variable {radix greatest value : ℕ}

theorem Numeral.ne_nil {cs : List Char} {n : ℕ} (h : Numeral radix cs n) : cs ≠ [] := by
  rintro rfl
  cases h with
  | bare h hne => exact hne (forall₂_nil_right_iff.mp h)

theorem Spells.exists_digit {cs : List Char} {ds : List ℕ} (h : Spells radix ds cs) :
    ∀ c ∈ cs, ∃ d, HexDigit d c := by
  induction h with
  | nil => simp
  | cons hd _ ih => exact forall_mem_cons.mpr ⟨⟨_, hd.2⟩, ih⟩

/-- There are no blanks in a numeral. -/
theorem Numeral.not_isBlank {cs : List Char} {n : ℕ} (h : Numeral radix cs n) :
    ∀ c ∈ cs, isBlank c = false := by
  have hdigits {digits : List Char} {ds : List ℕ} (h : Spells radix ds digits) :
      ∀ c ∈ digits, Text.isBlank c = false := by
    intro c hc
    obtain ⟨d, hd⟩ := h.exists_digit c hc
    exact hd.not_isBlank
  cases h with
  | bare h hne => exact hdigits h
  | signed h hne => exact forall_mem_cons.mpr ⟨by decide, hdigits h⟩

theorem digit?_eq_some_iff {c : Char} {d : ℕ} :
    digit? radix c = some d ↔ d < radix ∧ HexDigit d c := by
  rw [digit?, Option.filter_eq_some_iff, hexDigit?_eq_some_iff, decide_eq_true_eq, and_comm]

theorem le_numberOf (hradix : 0 < radix) (ds : List ℕ) : value ≤ numberOf radix value ds := by
  induction ds generalizing value with
  | nil => exact Nat.le_refl value
  | cons d ds ih =>
      have hstep : value ≤ value * radix + d :=
        Nat.le_add_right_of_le (Nat.le_mul_of_pos_right value hradix)
      exact hstep.trans ih

/-- Digits are read if and only if the number that they stand for is not too great. -/
theorem readDigits_eq_ok_iff (hradix : 0 < radix) (hvalue : value ≤ greatest) {cs : List Char}
    {n : ℕ} : readDigits radix greatest value cs = .ok n ↔
      ∃ ds, Spells radix ds cs ∧ n = numberOf radix value ds ∧ n ≤ greatest := by
  induction cs generalizing value with
  | nil =>
      constructor
      · rintro ⟨⟩
        exact ⟨[], .nil, rfl, hvalue⟩
      · rintro ⟨ds, hds, rfl, -⟩
        cases hds
        rfl
  | cons c cs ih =>
      rw [readDigits]
      constructor
      · intro h
        split at h
        · cases h
        rename_i d hd
        split at h
        · rename_i hfits
          obtain ⟨ds, hds, hn, hle⟩ := (ih hfits).mp h
          exact ⟨d :: ds, .cons (digit?_eq_some_iff.mp hd) hds, hn, hle⟩
        · cases h
      · rintro ⟨ds, hds, hn, hle⟩
        cases hds with
        | @cons d _ ds _ hd hds =>
            -- the number never becomes smaller, so that it is not too great on the way
            have hfits : value * radix + d ≤ greatest :=
              (le_numberOf hradix ds).trans (hn ▸ hle)
            rw [digit?_eq_some_iff.mpr hd]
            simp only [if_pos hfits]
            exact (ih hfits).mpr ⟨ds, hds, hn, hle⟩

/-- A text is read as a number if and only if it is a numeral of that number, which is not too
great. -/
theorem readUnsigned_eq_ok_iff (hradix : 0 < radix) {cs : List Char} {n : ℕ} :
    readUnsigned radix greatest cs = .ok n ↔ Numeral radix cs n ∧ n ≤ greatest := by
  have hsign : ∀ d, ¬ HexDigit d '+' := fun d hd => absurd hd.spec.1 (by decide)
  have hread {digits : List Char} (hne : digits ≠ []) :
      readDigits radix greatest 0 digits = .ok n ↔
        (∃ ds, Spells radix ds digits ∧ ds ≠ [] ∧ numberOf radix 0 ds = n) ∧ n ≤ greatest := by
    rw [readDigits_eq_ok_iff hradix (Nat.zero_le greatest)]
    constructor
    · rintro ⟨ds, hds, rfl, hle⟩
      refine ⟨⟨ds, hds, ?_, rfl⟩, hle⟩
      rintro rfl
      exact hne (forall₂_nil_left_iff.mp hds)
    · rintro ⟨⟨ds, hds, -, rfl⟩, hle⟩
      exact ⟨ds, hds, rfl, hle⟩
  unfold readUnsigned
  split
  · refine ⟨nofun, ?_⟩
    rintro ⟨h, -⟩
    cases h with
    | bare h hne => exact (hne (forall₂_nil_right_iff.mp h)).elim
  · refine ⟨nofun, ?_⟩
    rintro ⟨h, -⟩
    cases h with
    | bare h hne =>
        cases h with
        | cons hd _ => exact (hsign _ hd.2).elim
    | signed h hne => exact (hne (forall₂_nil_right_iff.mp h)).elim
  · rename_i digits hnil
    have hne : digits ≠ [] := fun h => hnil (by rw [h])
    rw [hread hne]
    refine and_congr_left fun _ => ⟨?_, fun h => ?_⟩
    · rintro ⟨ds, hds, hne, rfl⟩
      exact .signed hds hne
    · cases h with
      | bare h hne =>
          cases h with
          | cons hd _ => exact (hsign _ hd.2).elim
      | signed h hne => exact ⟨_, h, hne, rfl⟩
  · rename_i hnil hplain hsigned
    rw [hread hnil]
    refine and_congr_left fun _ => ⟨?_, fun h => ?_⟩
    · rintro ⟨ds, hds, hne, rfl⟩
      exact .bare hds hne
    · cases h with
      | bare h hne => exact ⟨_, h, hne, rfl⟩
      | signed h hne => exact (hsigned _ rfl).elim

end

/-! ## Decimal digits -/

/-- One or more decimal digits. -/
structure IsDecimal (cs : List Char) : Prop where
  ne_nil : cs ≠ []
  digits : ∀ c ∈ cs, c.isDigit = true

instance (cs : List Char) : Decidable (IsDecimal cs) :=
  decidable_of_iff (cs ≠ [] ∧ cs.all Char.isDigit = true)
    ⟨fun h => ⟨h.1, all_eq_true.mp h.2⟩, fun h => ⟨h.ne_nil, all_eq_true.mpr h.digits⟩⟩

theorem isDecimal_toDigits (n : ℕ) : IsDecimal (Nat.toDigits 10 n) where
  ne_nil := Nat.toDigits_ne_nil
  digits := fun _ hc => Nat.isDigit_of_mem_toDigits (by decide) (by decide) hc

theorem toNat_of_isDigit {c : Char} (h : c.isDigit = true) : 48 ≤ c.toNat ∧ c.toNat ≤ 57 := by
  rw [Char.isDigit, Bool.and_eq_true, decide_eq_true_eq, decide_eq_true_eq] at h
  exact ⟨UInt32.le_iff_toNat_le.mp h.1, UInt32.le_iff_toNat_le.mp h.2⟩

theorem digit?_of_isDigit {c : Char} (h : c.isDigit = true) :
    digit? 10 c = some (c.toNat - '0'.toNat) := by
  have hrange : '0' ≤ c ∧ c ≤ '9' := by simpa [Char.isDigit, Char.le_def] using h
  have hzero : '0'.toNat = 48 := rfl
  have hlt : c.toNat - 48 < 10 := by
    have hvalue := toNat_of_isDigit h
    omega
  simp [digit?, hexDigit?, hrange, hzero, hlt]

theorem le_ofDigitChars (digits : List Char) (value : ℕ) :
    value ≤ Nat.ofDigitChars 10 digits value := by
  induction digits generalizing value with
  | nil => exact Nat.le_refl value
  | cons c digits ih =>
      rw [Nat.ofDigitChars_cons]
      have hnext := ih (10 * value + (c.toNat - '0'.toNat))
      omega

/-- Reading stops short only where the number has become too great. -/
theorem readDigits_of_isDigit {greatest value : ℕ} {digits : List Char}
    (h : ∀ c ∈ digits, c.isDigit = true) (hvalue : value ≤ greatest) :
    readDigits 10 greatest value digits =
      if Nat.ofDigitChars 10 digits value ≤ greatest then
        .ok (Nat.ofDigitChars 10 digits value)
      else .error .overflow := by
  induction digits generalizing value with
  | nil => exact (if_pos hvalue).symm
  | cons c digits ih =>
      obtain ⟨hc, hdigits⟩ := forall_mem_cons.mp h
      rw [readDigits, digit?_of_isDigit hc, Nat.ofDigitChars_cons, Nat.mul_comm 10]
      simp only
      split
      · rename_i hfits
        exact ih hdigits hfits
      · rename_i hover
        have hle := le_ofDigitChars digits (value * 10 + (c.toNat - '0'.toNat))
        rw [if_neg (by omega)]

/-- A sign is not a digit. -/
theorem IsDecimal.readUnsigned_eq {cs : List Char} (h : IsDecimal cs) (greatest : ℕ) :
    readUnsigned 10 greatest cs =
      if Nat.ofDigitChars 10 cs 0 ≤ greatest then .ok (Nat.ofDigitChars 10 cs 0)
      else .error .overflow := by
  rw [← readDigits_of_isDigit h.digits (Nat.zero_le greatest)]
  unfold readUnsigned
  split
  · exact (h.ne_nil rfl).elim
  · exact absurd (h.digits '+' (mem_singleton_self _)) (by decide)
  · exact absurd (h.digits '+' (mem_cons_self ..)) (by decide)
  · rfl

/-- A port is read back from its digits. -/
theorem readPort_toDigits (port : UInt16) : readPort (Nat.toDigits 10 port.toNat) = .ok port := by
  have hfits : port.toNat ≤ 0xFFFF := Nat.le_of_lt_succ port.toNat_lt
  rw [readPort, (isDecimal_toDigits port.toNat).readUnsigned_eq, Nat.ofDigitChars_ten_toDigits,
    if_pos hfits]
  exact congrArg Except.ok UInt16.ofNat_toNat

theorem isBlank_of_isDigit {c : Char} (h : c.isDigit = true) : isBlank c = false := by
  have hrange := toNat_of_isDigit h
  simp only [isBlank, Bool.or_eq_false_iff, Bool.and_eq_false_iff, decide_eq_false_iff_not,
    beq_eq_false_iff_ne]
  omega

/-! ## Blanks around a text -/

theorem dropWhile_isBlank {cs : List Char} (h : ∀ c ∈ cs, isBlank c = false) :
    cs.dropWhile isBlank = cs := by
  cases cs with
  | nil => rfl
  | cons c cs =>
      rw [dropWhile_cons_of_neg]
      simp [h c mem_cons_self]

/-- The blanks around a text without any are removed. -/
theorem trim_append {before text after : List Char} (hbefore : ∀ c ∈ before, isBlank c = true)
    (htext : ∀ c ∈ text, isBlank c = false) (hafter : ∀ c ∈ after, isBlank c = true) :
    trim (before ++ (text ++ after)) = text := by
  have hback : ∀ c ∈ after.reverse, isBlank c = true := by simpa using hafter
  have hinner : ∀ c ∈ text.reverse, isBlank c = false := by simpa using htext
  have hend : dropEndWhile isBlank (text ++ after) = text := by
    rw [dropEndWhile, reverse_append, dropWhile_append_of_pos hback, dropWhile_isBlank hinner,
      reverse_reverse]
  rw [trim, dropWhile_append_of_pos hbefore]
  cases text with
  | nil =>
      rw [nil_append, dropWhile_eq_nil_iff.mpr hafter]
      rfl
  | cons c text =>
      rwa [cons_append, dropWhile_cons_of_neg (by simp [htext c mem_cons_self])]

/-- Nothing but blanks is removed. -/
theorem exists_trim (cs : List Char) : ∃ before after, cs = before ++ (trim cs ++ after) ∧
    (∀ c ∈ before, isBlank c = true) ∧ ∀ c ∈ after, isBlank c = true := by
  have hfront : cs.takeWhile isBlank ++ cs.dropWhile isBlank = cs := takeWhile_append_dropWhile
  have hback : trim cs ++ (cs.dropWhile isBlank).rtakeWhile isBlank = cs.dropWhile isBlank :=
    rdropWhile_append_rtakeWhile
  refine ⟨cs.takeWhile isBlank, (cs.dropWhile isBlank).rtakeWhile isBlank, ?_, ?_, ?_⟩
  · rw [hback, hfront]
  · intro c hc
    exact mem_takeWhile_imp hc
  · intro c hc
    exact mem_rtakeWhile_imp hc

/-- There are no blanks around digits. -/
theorem trim_of_isDigit {cs : List Char} (h : ∀ c ∈ cs, c.isDigit = true) : trim cs = cs := by
  have htrim := @trim_append [] cs [] (by simp) (fun c hc => isBlank_of_isDigit (h c hc)) (by simp)
  simpa using htrim

end TrafficCapture.Text
