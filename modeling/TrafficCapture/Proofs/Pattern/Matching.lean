import Mathlib.Data.Nat.Notation
import Mathlib.Tactic.Tauto
import TrafficCapture.Pattern.Track

/-! # Matches

What it means that an expression matches a stretch of a text, over all of its alternatives. Going
through a text once while keeping track of the places in the expression finds a match if and only
if there is one. -/

namespace TrafficCapture.Pattern

open List

/-- The position between two stretches of a text. -/
def between (pre post : List Char) : Position := ⟨pre.getLast?, post.head?⟩

/-- So many rounds, one behind another. -/
def Rounds (M : List Char → List Char → List Char → Prop) :
    ℕ → List Char → List Char → List Char → Prop
  | 0, _, w, _ => w = []
  | n + 1, pre, w, post =>
    ∃ u v, w = u ++ v ∧ M pre u (v ++ post) ∧ Rounds M n (pre ++ u) v post

/-- The expression matches `w` where `pre` stands before it and `post` behind it. A bound on the
rounds that is less than the rounds that there have to be says no more than that there are no
others. -/
def Regex.Matches : Regex → List Char → List Char → List Char → Prop
  | .empty, _, w, _ => w = []
  | .check c, pre, w, post => w = [] ∧ c.holds (between pre post) = true
  | .chars members, _, w, _ => ∃ c, w = [c] ∧ members.contains c = true
  | .capture r, pre, w, post => r.Matches pre w post
  | .seq a b, pre, w, post =>
    ∃ u v, w = u ++ v ∧ a.Matches pre u (v ++ post) ∧ b.Matches (pre ++ u) v post
  | .either a b, pre, w, post => a.Matches pre w post ∨ b.Matches pre w post
  | .repetition least most r, pre, w, post =>
    ∃ n, least ≤ n ∧ (∀ greatest ∈ most, n ≤ max least greatest) ∧ Rounds r.Matches n pre w post

/-! ## Rounds -/

section

variable {M M' : List Char → List Char → List Char → Prop} {pre w post : List Char}

theorem Rounds.congr (h : ∀ pre w post, M pre w post ↔ M' pre w post) (n : ℕ) :
    Rounds M n pre w post ↔ Rounds M' n pre w post := by
  have heq : M = M' := by
    funext pre w post
    exact propext (h pre w post)
  rw [heq]

theorem rounds_one : Rounds M 1 pre w post ↔ M pre w post := by
  constructor
  · rintro ⟨u, v, rfl, hu, rfl⟩
    simpa using hu
  · intro h
    exact ⟨w, [], by simp, by simpa using h, rfl⟩

theorem rounds_add (m n : ℕ) : Rounds M (m + n) pre w post ↔
    ∃ u v, w = u ++ v ∧ Rounds M m pre u (v ++ post) ∧ Rounds M n (pre ++ u) v post := by
  induction m generalizing pre w with
  | zero =>
      rw [Nat.zero_add]
      constructor
      · intro h
        exact ⟨[], w, rfl, rfl, by simpa using h⟩
      · rintro ⟨u, v, rfl, rfl, hv⟩
        simpa using hv
  | succ m ih =>
      rw [Nat.succ_add]
      constructor
      · rintro ⟨u, v, rfl, hu, hv⟩
        obtain ⟨v, x, rfl, hv, hx⟩ := ih.mp hv
        refine ⟨u ++ v, x, by simp, ⟨u, v, rfl, by simpa using hu, hv⟩, ?_⟩
        simpa using hx
      · rintro ⟨_, x, rfl, ⟨u, v, rfl, hu, hv⟩, hx⟩
        refine ⟨u, v ++ x, by simp, by simpa using hu, ih.mpr ⟨v, x, rfl, hv, ?_⟩⟩
        simpa using hx

theorem exists_cut_nil (P Q : List Char → List Char → List Char → Prop) :
    (∃ u v, [] = u ++ v ∧ P pre u (v ++ post) ∧ Q (pre ++ u) v post) ↔
      P pre [] post ∧ Q pre [] post := by
  constructor
  · rintro ⟨u, v, huv, hu, hv⟩
    obtain ⟨rfl, rfl⟩ := append_eq_nil_iff.mp huv.symm
    exact ⟨hu, by simpa using hv⟩
  · rintro ⟨hu, hv⟩
    exact ⟨[], [], rfl, hu, by simpa using hv⟩

/-- Of two parts in a row that take a character, the first one takes it, or it is empty and the
second one does. -/
theorem exists_cut_cons (P Q : List Char → List Char → List Char → Prop) (c : Char) :
    (∃ u v, c :: w = u ++ v ∧ P pre u (v ++ post) ∧ Q (pre ++ u) v post) ↔
      (P pre [] (c :: w ++ post) ∧ Q pre (c :: w) post) ∨
      ∃ u v, w = u ++ v ∧ P pre (c :: u) (v ++ post) ∧ Q (pre ++ [c] ++ u) v post := by
  constructor
  · rintro ⟨u, v, huv, hu, hv⟩
    cases u with
    | nil =>
        obtain rfl : c :: w = v := huv
        exact .inl ⟨hu, by simpa using hv⟩
    | cons d u =>
        obtain ⟨rfl, rfl⟩ := cons_eq_cons.mp huv
        exact .inr ⟨u, v, rfl, hu, by simpa using hv⟩
  · rintro (⟨hu, hv⟩ | ⟨u, v, rfl, hu, hv⟩)
    · exact ⟨[], c :: w, rfl, hu, by simpa using hv⟩
    · exact ⟨c :: u, v, rfl, hu, by simpa using hv⟩

/-- Of rounds that take a character, some round is the first to do so, and those in front of it say
nothing. -/
theorem exists_rounds_cons (c : Char) : (∃ n, Rounds M n pre (c :: w) post) ↔
    ∃ u v, w = u ++ v ∧ M pre (c :: u) (v ++ post) ∧ ∃ n, Rounds M n (pre ++ [c] ++ u) v post := by
  constructor
  · rintro ⟨n, h⟩
    induction n with
    | zero => cases h
    | succ n ih =>
        rcases (exists_cut_cons M (Rounds M n) c).mp h with ⟨-, h⟩ | ⟨u, v, hw, hu, hv⟩
        · exact ih h
        · exact ⟨u, v, hw, hu, n, hv⟩
  · rintro ⟨u, v, hw, hu, n, hv⟩
    exact ⟨n + 1, (exists_cut_cons M (Rounds M n) c).mpr (.inr ⟨u, v, hw, hu, hv⟩)⟩

/-- Rounds that may be empty are no more than so many. -/
theorem rounds_or_empty (k : ℕ) : Rounds (fun pre w post => M pre w post ∨ w = []) k pre w post ↔
    ∃ n ≤ k, Rounds M n pre w post := by
  induction k generalizing pre w with
  | zero =>
      constructor
      · intro h
        exact ⟨0, Nat.le_refl 0, h⟩
      · rintro ⟨n, hn, h⟩
        obtain rfl := Nat.le_zero.mp hn
        exact h
  | succ k ih =>
      constructor
      · rintro ⟨u, v, rfl, hu, hv⟩
        obtain ⟨n, hn, hv⟩ := ih.mp hv
        rcases hu with hu | rfl
        · exact ⟨n + 1, Nat.succ_le_succ hn, u, v, rfl, hu, hv⟩
        · exact ⟨n, Nat.le_succ_of_le hn, by simpa using hv⟩
      · rintro ⟨n, hn, h⟩
        cases n with
        | zero => exact ⟨[], w, rfl, .inr rfl, ih.mpr ⟨0, Nat.zero_le k, h⟩⟩
        | succ n =>
            obtain ⟨u, v, rfl, hu, hv⟩ := h
            exact ⟨u, v, rfl, .inl hu, ih.mpr ⟨n, Nat.le_of_succ_le_succ hn, hv⟩⟩

end

/-- The rounds that there have to be, and those that there may be behind them. -/
theorem Regex.matches_repetition (least : ℕ) (most : Option ℕ) (r : Regex) (pre w post : List Char) :
    (Regex.repetition least most r).Matches pre w post ↔
      ∃ u v, w = u ++ v ∧ Rounds r.Matches least pre u (v ++ post) ∧
        ∃ n, (∀ greatest ∈ most, n ≤ greatest - least) ∧ Rounds r.Matches n (pre ++ u) v post := by
  constructor
  · rintro ⟨n, hn, hmost, h⟩
    obtain ⟨extra, rfl⟩ := Nat.exists_eq_add_of_le hn
    obtain ⟨u, v, hw, hu, hv⟩ := (rounds_add _ _).mp h
    refine ⟨u, v, hw, hu, extra, fun greatest hg => ?_, hv⟩
    have hle := hmost greatest hg
    omega
  · rintro ⟨u, v, hw, hu, n, hmost, hv⟩
    refine ⟨least + n, Nat.le_add_right _ _, fun greatest hg => ?_,
      (rounds_add _ _).mpr ⟨u, v, hw, hu, hv⟩⟩
    have hle := hmost greatest hg
    omega

/-! ## Places in an expression -/

namespace Track

/-- The expression matches, whatever it is marked with. -/
def Matches : Track → List Char → List Char → List Char → Prop
  | empty, _, w, _ => w = []
  | check c, pre, w, post => w = [] ∧ c.holds (between pre post) = true
  | chars members _, _, w, _ => ∃ c, w = [c] ∧ members.contains c = true
  | seq a b, pre, w, post =>
    ∃ u v, w = u ++ v ∧ a.Matches pre u (v ++ post) ∧ b.Matches (pre ++ u) v post
  | either a b, pre, w, post => a.Matches pre w post ∨ b.Matches pre w post
  | star t, pre, w, post => ∃ n, Rounds t.Matches n pre w post

/-- A match that is under way goes on over `w`, from one of the marks. -/
def Continues : Track → List Char → List Char → List Char → Prop
  | empty, _, _, _ => False
  | check _, _, _, _ => False
  | chars _ marked, _, w, _ => w = [] ∧ marked = true
  | seq a b, pre, w, post =>
    b.Continues pre w post ∨
      ∃ u v, w = u ++ v ∧ a.Continues pre u (v ++ post) ∧ b.Matches (pre ++ u) v post
  | either a b, pre, w, post => a.Continues pre w post ∨ b.Continues pre w post
  | star t, pre, w, post =>
    ∃ u v n, w = u ++ v ∧ t.Continues pre u (v ++ post) ∧ Rounds t.Matches n (pre ++ u) v post

theorem matches_seq {a b : Track} {pre w post : List Char} : (seq a b).Matches pre w post ↔
    ∃ u v, w = u ++ v ∧ a.Matches pre u (v ++ post) ∧ b.Matches (pre ++ u) v post := Iff.rfl

theorem skippable_iff (t : Track) (pre post : List Char) :
    t.skippable (between pre post) = true ↔ t.Matches pre [] post := by
  induction t with
  | empty => simp [skippable, Matches]
  | check c => simp [skippable, Matches]
  | chars members marked => simp [skippable, Matches]
  | seq a b iha ihb =>
      rw [skippable, Bool.and_eq_true, iha, ihb]
      exact (exists_cut_nil a.Matches b.Matches).symm
  | either a b iha ihb => rw [skippable, Bool.or_eq_true, iha, ihb, Matches]
  | star t ih => exact iff_of_true rfl ⟨0, rfl⟩

theorem ended_iff (t : Track) (pre post : List Char) :
    t.ended (between pre post) = true ↔ t.Continues pre [] post := by
  induction t with
  | empty => simp [ended, Continues]
  | check c => simp [ended, Continues]
  | chars members marked => simp [ended, Continues]
  | seq a b iha ihb =>
      rw [ended, Bool.or_eq_true, Bool.and_eq_true, iha, ihb, skippable_iff]
      exact or_congr_right (and_comm.trans (exists_cut_nil a.Continues b.Matches).symm)
  | either a b iha ihb => rw [ended, Bool.or_eq_true, iha, ihb, Continues]
  | star t ih =>
      rw [ended, ih]
      constructor
      · intro h
        exact ⟨[], [], 0, rfl, h, rfl⟩
      · rintro ⟨u, v, n, huv, h, -⟩
        obtain ⟨rfl, rfl⟩ := append_eq_nil_iff.mp huv.symm
        exact h

/-- Reading moves the marks and nothing else. -/
theorem matches_read (t : Track) (at_ : Position) (c : Char) (start : Bool) :
    (t.read at_ c start).Matches = t.Matches := by
  induction t generalizing start with
  | empty => rfl
  | check k => rfl
  | chars members marked => rfl
  | seq a b iha ihb =>
      funext pre w post
      rw [read, Matches, Matches, iha, ihb]
  | either a b iha ihb =>
      funext pre w post
      rw [read, Matches, Matches, iha, ihb]
  | star t ih =>
      funext pre w post
      rw [read, Matches, Matches, ih]

/-- Behind a character that was read, those matches go on that went on over it, and those that may
begin with it. -/
theorem continues_read (t : Track) (pre w post : List Char) (c : Char) (start : Bool) :
    (t.read ⟨pre.getLast?, some c⟩ c start).Continues (pre ++ [c]) w post ↔
      t.Continues pre (c :: w) post ∨ start = true ∧ t.Matches pre (c :: w) post := by
  induction t generalizing w post start with
  | empty => simp [read, Continues, Matches]
  | check k => simp [read, Continues, Matches]
  | chars members marked =>
      simp only [read, Continues, Matches, Bool.and_eq_true, cons_eq_cons]
      constructor
      · rintro ⟨rfl, hstart, hc⟩
        exact .inr ⟨hstart, c, ⟨rfl, rfl⟩, hc⟩
      · rintro (⟨⟨⟩, -⟩ | ⟨hstart, d, ⟨rfl, rfl⟩, hd⟩)
        exact ⟨rfl, hstart, hd⟩
  | seq a b iha ihb =>
      have hended : a.ended ⟨pre.getLast?, some c⟩ = true ↔ a.Continues pre [] (c :: w ++ post) :=
        ended_iff a pre (c :: w ++ post)
      have hskippable : a.skippable ⟨pre.getLast?, some c⟩ = true ↔
          a.Matches pre [] (c :: w ++ post) := skippable_iff a pre (c :: w ++ post)
      simp only [read, Continues, Matches, matches_read, iha, ihb, Bool.or_eq_true,
        Bool.and_eq_true, hended, hskippable, exists_cut_cons a.Continues b.Matches,
        exists_cut_cons a.Matches b.Matches]
      constructor
      · rintro ((hb | ⟨ha | ⟨hstart, ha⟩, hb⟩) | ⟨u, v, hw, ha | ⟨hstart, ha⟩, hb⟩)
        · exact .inl (.inl hb)
        · exact .inl (.inr (.inl ⟨ha, hb⟩))
        · exact .inr ⟨hstart, .inl ⟨ha, hb⟩⟩
        · exact .inl (.inr (.inr ⟨u, v, hw, ha, hb⟩))
        · exact .inr ⟨hstart, .inr ⟨u, v, hw, ha, hb⟩⟩
      · rintro ((hb | ⟨ha, hb⟩ | ⟨u, v, hw, ha, hb⟩) | ⟨hstart, ⟨ha, hb⟩ | ⟨u, v, hw, ha, hb⟩⟩)
        · exact .inl (.inl hb)
        · exact .inl (.inr ⟨.inl ha, hb⟩)
        · exact .inr ⟨u, v, hw, .inl ha, hb⟩
        · exact .inl (.inr ⟨.inr ⟨hstart, ha⟩, hb⟩)
        · exact .inr ⟨u, v, hw, .inr ⟨hstart, ha⟩, hb⟩
  | either a b iha ihb =>
      rw [read, Continues, iha, ihb, Continues, Matches]
      tauto
  | star t ih =>
      have hended : t.ended ⟨pre.getLast?, some c⟩ = true ↔ t.Continues pre [] (c :: w ++ post) :=
        ended_iff t pre (c :: w ++ post)
      simp only [read, Continues, Matches, matches_read, ih, Bool.or_eq_true]
      have hcut := @exists_cut_cons pre w post t.Continues
        (fun pre v post => ∃ n, Rounds t.Matches n pre v post) c
      simp only [exists_and_left, exists_rounds_cons, hended] at hcut ⊢
      rw [hcut]
      constructor
      · rintro ⟨u, v, hw, h | ⟨hstart | hend, h⟩, hrounds⟩
        · exact .inl (.inr ⟨u, v, hw, h, hrounds⟩)
        · exact .inr ⟨hstart, u, v, hw, h, hrounds⟩
        · -- one round ends in front of the character, and the next one begins there
          exact .inl (.inl ⟨hend, u, v, hw, h, hrounds⟩)
      · rintro ((⟨hend, u, v, hw, h, hrounds⟩ | ⟨u, v, hw, h, hrounds⟩) |
          ⟨hstart, u, v, hw, h, hrounds⟩)
        · exact ⟨u, v, hw, .inr ⟨.inr hend, h⟩, hrounds⟩
        · exact ⟨u, v, hw, .inl h, hrounds⟩
        · exact ⟨u, v, hw, .inr ⟨.inl hstart, h⟩, hrounds⟩

/-! ## Going through a text -/

/-- A match is found behind `pre`: one that goes on, or one that begins somewhere. -/
def Found (t : Track) (pre text : List Char) : Prop :=
  (∃ w post, text = w ++ post ∧ t.Continues pre w post) ∨
    ∃ skipped w post, text = skipped ++ (w ++ post) ∧ t.Matches (pre ++ skipped) w post

theorem found_nil (t : Track) (pre : List Char) :
    t.Found pre [] ↔ t.Continues pre [] [] ∨ t.Matches pre [] [] := by
  constructor
  · rintro (⟨w, post, hw, h⟩ | ⟨skipped, w, post, hw, h⟩)
    · obtain ⟨rfl, rfl⟩ := append_eq_nil_iff.mp hw.symm
      exact .inl h
    · obtain ⟨rfl, hrest⟩ := append_eq_nil_iff.mp hw.symm
      obtain ⟨rfl, rfl⟩ := append_eq_nil_iff.mp hrest
      exact .inr (by simpa using h)
  · rintro (h | h)
    · exact .inl ⟨[], [], rfl, h⟩
    · exact .inr ⟨[], [], [], rfl, by simpa using h⟩

theorem found_cons (t : Track) (pre : List Char) (c : Char) (text : List Char) :
    t.Found pre (c :: text) ↔ t.Continues pre [] (c :: text) ∨ t.Matches pre [] (c :: text) ∨
      (t.read ⟨pre.getLast?, some c⟩ c true).Found (pre ++ [c]) text := by
  simp only [Found, continues_read, matches_read, true_and]
  constructor
  · rintro (⟨w, post, hw, h⟩ | ⟨skipped, w, post, hw, h⟩)
    · cases w with
      | nil => exact .inl (hw ▸ h)
      | cons d w =>
          obtain ⟨rfl, rfl⟩ := cons_eq_cons.mp hw
          exact .inr (.inr (.inl ⟨w, post, rfl, .inl h⟩))
    · cases skipped with
      | nil =>
          rw [append_nil] at h
          cases w with
          | nil => exact .inr (.inl (hw ▸ h))
          | cons d w =>
              obtain ⟨rfl, rfl⟩ := cons_eq_cons.mp hw
              exact .inr (.inr (.inl ⟨w, post, rfl, .inr h⟩))
      | cons d skipped =>
          obtain ⟨rfl, rfl⟩ := cons_eq_cons.mp hw
          exact .inr (.inr (.inr ⟨skipped, w, post, rfl, by simpa using h⟩))
  · rintro (h | h | ⟨w, post, rfl, h | h⟩ | ⟨skipped, w, post, rfl, h⟩)
    · exact .inl ⟨[], c :: text, rfl, h⟩
    · exact .inr ⟨[], [], c :: text, rfl, by simpa using h⟩
    · exact .inl ⟨c :: w, post, rfl, h⟩
    · exact .inr ⟨[], c :: w, post, rfl, by simpa using h⟩
    · exact .inr ⟨c :: skipped, w, post, rfl, by simpa using h⟩

theorem foundBehind_iff (t : Track) (pre text : List Char) :
    t.foundBehind pre.getLast? text = true ↔ t.Found pre text := by
  induction text generalizing t pre with
  | nil =>
      have hhere := or_congr (ended_iff t pre []) (skippable_iff t pre [])
      rw [found_nil, ← hhere, foundBehind]
      simp [between]
  | cons c text ih =>
      have hlast : (pre ++ [c]).getLast? = some c := by simp
      have hmore := ih (t.read ⟨pre.getLast?, some c⟩ c true) (pre ++ [c])
      rw [hlast] at hmore
      rw [foundBehind, found_cons, ← hmore, ← ended_iff, ← skippable_iff]
      simp [between, or_assoc]

/-! ## Rounds written out -/

theorem matches_power (t : Track) (n : ℕ) (pre w post : List Char) :
    (t.power n).Matches pre w post ↔ Rounds t.Matches n pre w post := by
  induction n using Nat.strongRecOn generalizing pre w post with
  | ind n ih =>
      rw [power]
      split
      · rename_i hzero
        rw [beq_iff_eq.mp hzero]
        rfl
      split
      · rename_i hone
        rw [beq_iff_eq.mp hone, rounds_one]
      · rename_i hzero hone
        rw [beq_iff_eq] at hzero hone
        have hsplit := @rounds_add t.Matches pre w post (n / 2) (n - n / 2)
        rw [show n / 2 + (n - n / 2) = n by omega] at hsplit
        rw [hsplit, matches_seq]
        simp only [ih (n / 2) (by omega), ih (n - n / 2) (by omega)]

/-- Nothing is under way. -/
def Fresh (t : Track) : Prop := ∀ pre w post, ¬ t.Continues pre w post

theorem Fresh.seq {a b : Track} (ha : a.Fresh) (hb : b.Fresh) : (a.seq b).Fresh := by
  rintro pre w post (h | ⟨u, v, -, h, -⟩)
  · exact hb _ _ _ h
  · exact ha _ _ _ h

theorem Fresh.power {t : Track} (h : t.Fresh) (n : ℕ) : (t.power n).Fresh := by
  induction n using Nat.strongRecOn with
  | ind n ih =>
      rw [Track.power]
      split
      · exact fun _ _ _ h => h
      split
      · exact h
      · rename_i hzero hone
        rw [beq_iff_eq] at hzero hone
        exact (ih _ (by omega)).seq (ih _ (by omega))

theorem fresh_ofRegex (r : Regex) : (ofRegex r).Fresh := by
  induction r with
  | empty => exact fun _ _ _ h => h
  | check c => exact fun _ _ _ h => h
  | chars members => exact fun _ _ _ h => Bool.noConfusion h.2
  | capture r ih => exact ih
  | seq a b iha ihb => exact iha.seq ihb
  | either a b iha ihb => exact fun pre w post h => h.elim (iha pre w post) (ihb pre w post)
  | repetition least most r ih =>
      have hstar : (star (ofRegex r)).Fresh := fun _ _ _ ⟨_, _, _, _, h, _⟩ => ih _ _ _ h
      have hoptional : (either (ofRegex r) empty).Fresh := fun _ _ _ h => h.elim (ih _ _ _) id
      cases most with
      | none =>
          by_cases hleast : least = 0
          · simpa [ofRegex, hleast] using hstar
          · simpa [ofRegex, hleast] using (ih.power _).seq hstar
      | some most => exact (ih.power _).seq (hoptional.power _)

theorem matches_ofRegex (r : Regex) (pre w post : List Char) :
    (ofRegex r).Matches pre w post ↔ r.Matches pre w post := by
  induction r generalizing pre w post with
  | empty => rfl
  | check c => rfl
  | chars members => rfl
  | capture r ih => exact ih pre w post
  | seq a b iha ihb => simp only [ofRegex, Matches, Regex.Matches, iha, ihb]
  | either a b iha ihb => simp only [ofRegex, Matches, Regex.Matches, iha, ihb]
  | repetition least most r ih =>
      have hround (n : ℕ) (pre w post : List Char) :
          Rounds (ofRegex r).Matches n pre w post ↔ Rounds r.Matches n pre w post :=
        Rounds.congr ih n
      cases most with
      | none =>
          have hstar (pre w post : List Char) : (star (ofRegex r)).Matches pre w post ↔
              ∃ n, Rounds r.Matches n pre w post := exists_congr fun n => hround n pre w post
          by_cases hleast : least = 0
          · simp [ofRegex, hleast, hstar, Regex.Matches]
          · simp [ofRegex, hleast, Regex.matches_repetition, matches_seq, matches_power, hround, hstar]
      | some most =>
          have hoptional (k : ℕ) (pre w post : List Char) :
              Rounds (either (ofRegex r) empty).Matches k pre w post ↔
                ∃ n ≤ k, Rounds r.Matches n pre w post := by
            rw [← rounds_or_empty]
            exact Rounds.congr (fun pre w post => or_congr_left (ih pre w post)) k
          simp [ofRegex, Regex.matches_repetition, matches_seq, matches_power, hround, hoptional]

/-- Going through a text finds a match if there is one, whichever of its alternatives it takes. -/
theorem foundIn_ofRegex (r : Regex) (text : List Char) : (ofRegex r).foundIn text = true ↔
    ∃ pre w post, text = pre ++ (w ++ post) ∧ r.Matches pre w post := by
  have hfound := foundBehind_iff (ofRegex r) [] text
  rw [foundIn]
  refine hfound.trans ⟨?_, ?_⟩
  · rintro (⟨w, post, -, h⟩ | ⟨pre, w, post, rfl, h⟩)
    · exact (fresh_ofRegex r _ _ _ h).elim
    · exact ⟨pre, w, post, rfl, (matches_ofRegex r pre w post).mp h⟩
  · rintro ⟨pre, w, post, rfl, h⟩
    exact .inr ⟨pre, w, post, rfl, (matches_ofRegex r pre w post).mpr h⟩

end Track

end TrafficCapture.Pattern
