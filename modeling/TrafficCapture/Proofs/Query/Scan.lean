import Mathlib.Data.List.Basic
import TrafficCapture.Query.Spec

/-! # Scans

A scan selects by one predicate and is given up at the first batch before which the deadline has
come. Both directions are described by what they select and by when they are given up, whatever the
clock reads. -/

namespace TrafficCapture.Query

open List

/-- A batch begins at the index, and the deadline has come before it. -/
def Expired (deadline : Option Int) (clock : Clock) (index : ℕ) : Prop :=
  index % batch = 0 ∧ ∃ time, deadline = some time ∧ time ≤ clock.check (index / batch)

instance (deadline : Option Int) (clock : Clock) (index : ℕ) :
    Decidable (Expired deadline clock index) :=
  decidable_of_iff (index % batch = 0 ∧ (deadline.any (· ≤ clock.check (index / batch))) = true)
    (by simp [Expired, Option.any_eq_true])

/-- A scan of so many exchanges comes upon the deadline. -/
def Overdue (deadline : Option Int) (clock : Clock) (count : ℕ) : Prop :=
  ∃ index < count, Expired deadline clock index

instance (deadline : Option Int) (clock : Clock) (count : ℕ) :
    Decidable (Overdue deadline clock count) :=
  inferInstanceAs (Decidable (∃ index < count, Expired deadline clock index))

/-- What is said of a scan that is given up at an index. -/
def givenUp (clock : Clock) (index : ℕ) : Failure :=
  .timeout (UInt64.ofNat (clock.check (index / batch) - clock.started).toNat)

section

variable {deadline : Option Int} {clock : Clock} {wanted : Exchange → Bool} {index turn : ℕ}
  {kept front entries : List Exchange}

theorem checkAt_of_expired (h : Expired deadline clock index) :
    checkAt deadline clock index = .error (givenUp clock index) := by
  obtain ⟨hbatch, time, rfl, htime⟩ := h
  simp [checkAt, givenUp, hbatch, htime]

theorem checkAt_of_not_expired (h : ¬ Expired deadline clock index) :
    checkAt deadline clock index = .ok () := by
  cases deadline with
  | none => rfl
  | some time =>
      have hopen : ¬ (index % batch = 0 ∧ time ≤ clock.check (index / batch)) :=
        fun hd => h ⟨hd.1, time, rfl, hd.2⟩
      simp [checkAt, hopen]

/-- The deadline does not come before any of so many exchanges from an index on. -/
def TimelyFrom (deadline : Option Int) (clock : Clock) (index count : ℕ) : Prop :=
  ∀ i < count, ¬ Expired deadline clock (index + i)

theorem TimelyFrom.head {count : ℕ} (h : TimelyFrom deadline clock index (count + 1)) :
    ¬ Expired deadline clock index :=
  h 0 (Nat.succ_pos count)

theorem TimelyFrom.tail {count : ℕ} (h : TimelyFrom deadline clock index (count + 1)) :
    TimelyFrom deadline clock (index + 1) count := by
  intro i hi
  have hnext := h (i + 1) (Nat.succ_lt_succ hi)
  rwa [Nat.add_assoc, Nat.add_comm 1 i]

/-- Inside a batch nothing is checked. -/
theorem timelyFrom_batch {count : ℕ} (h : ¬ Expired deadline clock (turn * batch))
    (hcount : count ≤ batch) : TimelyFrom deadline clock (turn * batch) count := by
  intro i hi hexpired
  have hmod : (turn * batch + i) % batch = i := by
    rw [Nat.mul_add_mod_self_right]
    exact Nat.mod_eq_of_lt (Nat.lt_of_lt_of_le hi hcount)
  obtain rfl : i = 0 := hmod.symm.trans hexpired.1
  rw [Nat.add_zero] at hexpired
  exact h hexpired

/-- A scan that comes upon the deadline does so somewhere for the first time. -/
theorem exists_first_of_not_timely {count : ℕ} (h : ¬ TimelyFrom deadline clock index count) :
    ∃ i < count, Expired deadline clock (index + i) ∧ TimelyFrom deadline clock index i := by
  induction count with
  | zero => exact absurd (fun i hi => absurd hi (Nat.not_lt_zero i)) h
  | succ count ih =>
      by_cases hbefore : TimelyFrom deadline clock index count
      · refine ⟨count, Nat.lt_succ_self count, ?_, hbefore⟩
        by_contra hnot
        apply h
        intro i hi
        rcases Nat.lt_succ_iff_lt_or_eq.mp hi with hlt | rfl
        · exact hbefore i hlt
        · exact hnot
      · obtain ⟨i, hi, hexpired, hfirst⟩ := ih hbefore
        exact ⟨i, Nat.lt_succ_of_lt hi, hexpired, hfirst⟩

theorem overdue_iff {count : ℕ} :
    Overdue deadline clock count ↔ ¬ TimelyFrom deadline clock 0 count := by
  simp [Overdue, TimelyFrom]

/-! ## Selecting everything -/

/-- A scan goes on behind a front before which the deadline does not come. -/
theorem filterFrom_append (kept entries : List Exchange)
    (h : TimelyFrom deadline clock index front.length) :
    filterFrom deadline clock wanted index kept (front ++ entries) =
      filterFrom deadline clock wanted (index + front.length)
        ((front.filter wanted).reverse ++ kept) entries := by
  induction front generalizing index kept with
  | nil => rfl
  | cons e front ih =>
      rw [cons_append, filterFrom, checkAt_of_not_expired h.head]
      simp only
      rw [ih _ h.tail, length_cons, Nat.add_assoc, Nat.add_comm 1]
      by_cases hw : wanted e = true <;> simp [hw]

theorem filterFrom_of_timely (h : TimelyFrom deadline clock index entries.length) :
    filterFrom deadline clock wanted index kept entries =
      .ok (kept.reverse ++ entries.filter wanted) := by
  rw [← append_nil entries, filterFrom_append kept [] h, filterFrom, reverse_append,
    reverse_reverse, append_nil]

variable (wanted) in
/-- Behind one batch comes the next. -/
theorem filterFrom_batch (h : ¬ Expired deadline clock (turn * batch))
    (kept entries : List Exchange) :
    filterFrom deadline clock wanted (turn * batch) kept entries =
      filterFrom deadline clock wanted ((turn + 1) * batch)
        (((entries.take batch).filter wanted).reverse ++ kept) (entries.drop batch) := by
  have htimely := timelyFrom_batch h (length_take_le batch entries)
  conv_lhs => rw [← take_append_drop batch entries, filterFrom_append _ _ htimely]
  by_cases hshort : entries.length ≤ batch
  · rw [drop_eq_nil_of_le hshort, filterFrom, filterFrom]
  · rw [length_take_of_le (Nat.le_of_not_le hshort), Nat.succ_mul]

theorem filterFrom_of_expired (h : Expired deadline clock index) (hne : entries ≠ []) :
    filterFrom deadline clock wanted index kept entries = .error (givenUp clock index) := by
  cases entries with
  | nil => exact (hne rfl).elim
  | cons e entries => rw [filterFrom, checkAt_of_expired h]

/-! ## Looking for the first -/

/-- A search goes on behind a front before which the deadline does not come, unless it ends
there. -/
theorem findFrom_append (entries : List Exchange)
    (h : TimelyFrom deadline clock index front.length) :
    findFrom deadline clock wanted index (front ++ entries) =
      match front.find? wanted with
      | some e => .ok (some e)
      | none => findFrom deadline clock wanted (index + front.length) entries := by
  induction front generalizing index with
  | nil => rfl
  | cons e front ih =>
      rw [cons_append, findFrom, checkAt_of_not_expired h.head]
      simp only
      by_cases hw : wanted e = true
      · simp [hw]
      · simp only [hw, find?_cons]
        rw [if_neg (by simp), ih h.tail, length_cons, Nat.add_assoc, Nat.add_comm 1]

theorem findFrom_of_timely (h : TimelyFrom deadline clock index entries.length) :
    findFrom deadline clock wanted index entries = .ok (entries.find? wanted) := by
  rw [← append_nil entries, findFrom_append [] h, append_nil]
  cases entries.find? wanted <;> rfl

variable (wanted) in
theorem findFrom_batch (h : ¬ Expired deadline clock (turn * batch)) (entries : List Exchange) :
    findFrom deadline clock wanted (turn * batch) entries =
      match (entries.take batch).find? wanted with
      | some e => .ok (some e)
      | none => findFrom deadline clock wanted ((turn + 1) * batch) (entries.drop batch) := by
  have htimely := timelyFrom_batch h (length_take_le batch entries)
  conv_lhs => rw [← take_append_drop batch entries, findFrom_append _ htimely]
  by_cases hshort : entries.length ≤ batch
  · rw [drop_eq_nil_of_le hshort, findFrom, findFrom]
  · rw [length_take_of_le (Nat.le_of_not_le hshort), Nat.succ_mul]

theorem findFrom_of_expired (h : Expired deadline clock index) (hne : entries ≠ []) :
    findFrom deadline clock wanted index entries = .error (givenUp clock index) := by
  cases entries with
  | nil => exact (hne rfl).elim
  | cons e entries => rw [findFrom, checkAt_of_expired h]

/-- A search ends at an exchange that is wanted, or it is given up before the first batch that the
deadline came before and that it reached. -/
theorem findFrom_of_first {i : ℕ} (hi : i < entries.length)
    (hexpired : Expired deadline clock (index + i)) (h : TimelyFrom deadline clock index i) :
    findFrom deadline clock wanted index entries =
      match (entries.take i).find? wanted with
      | some e => .ok (some e)
      | none => .error (givenUp clock (index + i)) := by
  have hlen : (entries.take i).length = i := length_take_of_le (Nat.le_of_lt hi)
  have hback : entries.drop i ≠ [] := by
    intro hnil
    have := drop_eq_nil_iff.mp hnil
    omega
  rw [← hlen] at h hexpired
  rw [← take_append_drop i entries, findFrom_append _ h, findFrom_of_expired hexpired hback, hlen,
    take_append_drop]

end

/-! ## Both scans of a snapshot -/

section

variable (deadline : Option Int) (clock : Clock) (ports : PortFilter) (pattern : Pattern)
  (snapshot : List Exchange)

/-- A scan either comes upon the deadline or selects everything that it is to select. -/
theorem filter_spec :
    (Overdue deadline clock snapshot.length ∧
        ∃ ms, filter deadline clock ports pattern snapshot = .error (.timeout ms)) ∨
      (¬ Overdue deadline clock snapshot.length ∧
        filter deadline clock ports pattern snapshot =
          .ok (snapshot.filter (selects ports pattern))) := by
  by_cases htimely : TimelyFrom deadline clock 0 snapshot.length
  · refine .inr ⟨fun h => overdue_iff.mp h htimely, ?_⟩
    exact filterFrom_of_timely htimely
  · refine .inl ⟨overdue_iff.mpr htimely, ?_⟩
    obtain ⟨i, hi, hexpired, hfirst⟩ := exists_first_of_not_timely htimely
    have hlen : (snapshot.take i).length = i := length_take_of_le (Nat.le_of_lt hi)
    have hback : snapshot.drop i ≠ [] := by
      intro hnil
      have := drop_eq_nil_iff.mp hnil
      omega
    rw [← hlen] at hfirst hexpired
    have hcut : filter deadline clock ports pattern (snapshot.take i ++ snapshot.drop i) = _ :=
      (filterFrom_append [] _ hfirst).trans (filterFrom_of_expired hexpired hback)
    rw [take_append_drop] at hcut
    exact ⟨_, hcut⟩

theorem find?_reverse_eq_getLast? {α : Type} (p : α → Bool) (l : List α) :
    l.reverse.find? p = (l.filter p).getLast? := by
  rw [← head?_filter, filter_reverse, head?_reverse]

/-- A search from the end is given up only before a batch behind which nothing is selected.
Otherwise it finds the last exchange that is. -/
theorem mostRecent_spec :
    (∃ index < snapshot.length, Expired deadline clock index ∧
        (∀ e ∈ snapshot.reverse.take index, selects ports pattern e = false) ∧
        ∃ ms, mostRecent deadline clock ports pattern snapshot = .error (.timeout ms)) ∨
      ((∀ index < snapshot.length, Expired deadline clock index →
          ∃ e ∈ snapshot.reverse.take index, selects ports pattern e = true) ∧
        mostRecent deadline clock ports pattern snapshot =
          .ok (snapshot.filter (selects ports pattern)).getLast?) := by
  by_cases htimely : TimelyFrom deadline clock 0 snapshot.length
  · refine .inr ⟨fun index hi hexpired => ?_, ?_⟩
    · exact absurd (by rwa [Nat.zero_add]) (htimely index hi)
    · rw [mostRecent, findFrom_of_timely (by rwa [length_reverse]), find?_reverse_eq_getLast?]
  · obtain ⟨i, hi, hexpired, hfirst⟩ := exists_first_of_not_timely htimely
    have hsearch : mostRecent deadline clock ports pattern snapshot = _ :=
      findFrom_of_first (by rwa [length_reverse]) hexpired hfirst
    rw [Nat.zero_add] at hsearch hexpired
    cases hfound : (snapshot.reverse.take i).find? (selects ports pattern) with
    | none =>
        rw [hfound] at hsearch
        refine .inl ⟨i, hi, hexpired, ?_, _, hsearch⟩
        simpa using find?_eq_none.mp hfound
    | some e =>
        rw [hfound] at hsearch
        have hwhole : snapshot.reverse.find? (selects ports pattern) = some e := by
          rw [← take_append_drop i snapshot.reverse, find?_append, hfound]
          rfl
        refine .inr ⟨fun index hindex hlater => ?_, ?_⟩
        · refine ⟨e, ?_, find?_some hfound⟩
          have hle : i ≤ index := by
            by_contra hlt
            have := hfirst index (Nat.lt_of_not_le hlt)
            rw [Nat.zero_add] at this
            exact this hlater
          exact take_subset_take_left snapshot.reverse hle (mem_of_find?_eq_some hfound)
        · rw [hsearch, ← find?_reverse_eq_getLast?, hwhole]

end

end TrafficCapture.Query
