import Mathlib.Data.List.DropRight
import TrafficCapture.Store

/-! # The history of a store

What a store holds and answers is determined by all that was done with it: it holds the newest of
the exchanges that were appended since it was last cleared, each under the number of its append. -/

namespace TrafficCapture.Store

open List

/-- One use of a store. -/
inductive Step where
  | append (e : Exchange)
  | clear
  | snapshot
  | length
  | last
  deriving DecidableEq

/-- What a use of a store answers. -/
inductive Answer where
  | assigned (sequence : UInt64)
  | removed (count : ℕ)
  | taken (entries : List Exchange)
  | counted (count : ℕ)
  | newest (sequence : Option UInt64)
  deriving DecidableEq

def perform (s : Store) : Step → Answer × Store
  | .append e => (.assigned (s.append e).1, (s.append e).2)
  | .clear => (.removed s.clear.1, s.clear.2)
  | .snapshot => (.taken s.snapshot, s)
  | .length => (.counted s.length, s)
  | .last => (.newest s.lastSequence?, s)

/-- Uses a store again and again. -/
def run (s : Store) : List Step → List Answer × Store
  | [] => ([], s)
  | step :: steps =>
      ((s.perform step).1 :: ((s.perform step).2.run steps).1, ((s.perform step).2.run steps).2)

theorem run_append (s : Store) (steps more : List Step) :
    (s.run (steps ++ more)).2 = ((s.run steps).2.run more).2 := by
  induction steps generalizing s with
  | nil => rfl
  | cons step steps ih => exact ih (s.perform step).2

/-! ## What a history tells -/

/-- All exchanges that were ever appended. -/
def appends (steps : List Step) : List Exchange :=
  steps.filterMap fun
    | .append e => some e
    | _ => none

/-- The steps behind the last clearing. -/
def sinceClear (steps : List Step) : List Step := steps.rtakeWhile fun step => step != .clear

/-- All exchanges that were ever appended, under their numbers. -/
def numbered (steps : List Step) : List Exchange :=
  (appends steps).zipIdx.map fun (e, i) => { e with sequence := UInt64.ofNat (i + 1) }

/-- Exchanges under the numbers behind `n`. -/
def numberedFrom (n : ℕ) (entries : List Exchange) : List Exchange :=
  (entries.zipIdx n).map fun (e, i) => { e with sequence := UInt64.ofNat (i + 1) }

/-- How many of so many exchanges a store keeps; a capacity of 0 means that there is no bound. -/
def kept (capacity count : ℕ) : ℕ := if capacity = 0 then count else min count capacity

/-- The exchanges that a store holds. -/
def held (capacity : ℕ) (steps : List Step) : List Exchange :=
  (numbered steps).rtake (kept capacity (appends (sinceClear steps)).length)

/-- What a step answers behind the steps of the past. -/
inductive Answers (capacity : ℕ) (past : List Step) : Step → Answer → Prop where
  | append {e : Exchange} {sequence : UInt64}
      (h : sequence.toNat = (appends past).length + 1) :
      Answers capacity past (.append e) (.assigned sequence)
  | clear : Answers capacity past .clear (.removed (held capacity past).length)
  | snapshot : Answers capacity past .snapshot (.taken (held capacity past))
  | length : Answers capacity past .length (.counted (held capacity past).length)
  | none (h : appends past = []) : Answers capacity past .last (.newest none)
  | last {sequence : UInt64} (hne : appends past ≠ [])
      (h : sequence.toNat = (appends past).length) :
      Answers capacity past .last (.newest (some sequence))

section

variable {steps : List Step} {e : Exchange} {step : Step}

theorem appends_concat_append (steps : List Step) (e : Exchange) :
    appends (steps ++ [.append e]) = appends steps ++ [e] := by
  simp [appends]

theorem appends_concat (h : ∀ e, step ≠ .append e) : appends (steps ++ [step]) = appends steps := by
  cases step with
  | append e => exact (h e rfl).elim
  | _ => simp [appends]

theorem numbered_concat_append (steps : List Step) (e : Exchange) :
    numbered (steps ++ [.append e]) = numbered steps ++
      [{ e with sequence := UInt64.ofNat ((appends steps).length + 1) }] := by
  simp [numbered, appends_concat_append, zipIdx_append]

/-- Exchanges that are appended one after another are numbered on. -/
theorem numbered_append (steps : List Step) (entries : List Exchange) :
    numbered (steps ++ entries.map .append) =
      numbered steps ++ numberedFrom (appends steps).length entries := by
  have hentries : appends (entries.map .append) = entries := by simp [appends, filterMap_map]
  have happends : appends (steps ++ entries.map .append) = appends steps ++ entries := by
    rw [appends, filterMap_append]
    exact congrArg _ hentries
  rw [numbered, happends, zipIdx_append, map_append, numbered, Nat.zero_add, numberedFrom]

theorem numbered_concat (h : ∀ e, step ≠ .append e) :
    numbered (steps ++ [step]) = numbered steps := by
  rw [numbered, appends_concat h, numbered]

theorem length_numbered (steps : List Step) : (numbered steps).length = (appends steps).length := by
  simp [numbered]

theorem sinceClear_concat (h : step ≠ .clear) :
    sinceClear (steps ++ [step]) = sinceClear steps ++ [step] :=
  rtakeWhile_concat_pos _ _ _ (by simpa using h)

theorem sinceClear_concat_clear (steps : List Step) : sinceClear (steps ++ [.clear]) = [] :=
  rtakeWhile_concat_neg _ _ _ (by simp)

theorem length_sinceClear_le (steps : List Step) :
    (appends (sinceClear steps)).length ≤ (appends steps).length :=
  ((rtakeWhile_suffix _ _).filterMap _).length_le

theorem kept_le (capacity count : ℕ) : kept capacity count ≤ count := by
  unfold kept
  split
  · exact Nat.le_refl _
  · exact Nat.min_le_left _ _

theorem length_held (capacity : ℕ) (steps : List Step) :
    (held capacity steps).length = kept capacity (appends (sinceClear steps)).length := by
  have h := kept_le capacity (appends (sinceClear steps)).length
  have hle := length_sinceClear_le steps
  rw [held, rtake, length_drop, length_numbered]
  omega

theorem length_held_le (capacity : ℕ) (steps : List Step) :
    (held capacity steps).length ≤ (appends steps).length := by
  rw [length_held]
  exact (kept_le _ _).trans (length_sinceClear_le steps)

theorem held_concat {capacity : ℕ} (ha : ∀ e, step ≠ .append e) (hc : step ≠ .clear) :
    held capacity (steps ++ [step]) = held capacity steps := by
  rw [held, numbered_concat ha, sinceClear_concat hc, appends_concat ha, held]

theorem held_concat_clear (capacity : ℕ) (steps : List Step) :
    held capacity (steps ++ [.clear]) = [] := by
  rw [held, sinceClear_concat_clear]
  simp [appends, kept]

end

/-! ## The invariant -/

theorem rtake_rtake {α : Type} (l : List α) (m n : ℕ) :
    (l.rtake m).rtake n = l.rtake (min m n) := by
  simp only [rtake_eq_reverse_take_reverse, reverse_reverse, take_take, Nat.min_comm]

theorem rtake_of_length_le {α : Type} {l : List α} {n : ℕ} (h : l.length ≤ n) : l.rtake n = l := by
  rw [rtake, Nat.sub_eq_zero_of_le h, drop_zero]

/-- Eviction leaves the newest exchanges. -/
theorem toList_evict (capacity : ℕ) (entries : Array Exchange) :
    (evict (if capacity == 0 then none else some capacity) entries).toList =
      entries.toList.rtake (kept capacity entries.size) := by
  by_cases hunbounded : capacity = 0
  · simp [evict, kept, hunbounded, rtake]
  · simp only [evict, beq_iff_eq, hunbounded, if_false, kept]
    split
    · rename_i hfull
      rw [Nat.min_eq_right hfull.le, rtake, Array.length_toList, Array.toList_extract]
      exact take_of_length_le (by simp)
    · rename_i hfits
      rw [Nat.min_eq_left (Nat.le_of_not_lt hfits),
        rtake_of_length_le (Array.length_toList ▸ le_rfl)]

theorem kept_succ_le (capacity count : ℕ) :
    kept capacity (count + 1) ≤ kept capacity count + 1 := by
  unfold kept
  split <;> omega

theorem kept_kept_succ (capacity count : ℕ) :
    kept capacity (kept capacity count + 1) = kept capacity (count + 1) := by
  unfold kept
  split
  · rfl
  · omega

/-- What is held after an append is held or appended, and evicted only as far as it has to be. -/
theorem held_concat_append (capacity : ℕ) (steps : List Step) (e : Exchange) :
    held capacity (steps ++ [.append e]) =
      (held capacity steps ++
        [{ e with sequence := UInt64.ofNat ((appends steps).length + 1) }]).rtake
          (kept capacity ((held capacity steps).length + 1)) := by
  have hsince : (appends (sinceClear (steps ++ [.append e]))).length =
      (appends (sinceClear steps)).length + 1 := by
    rw [sinceClear_concat (by simp), appends_concat_append, length_append, length_singleton]
  rw [length_held, kept_kept_succ, held, hsince, numbered_concat_append, held,
    ← rtake_concat_succ, rtake_rtake, Nat.min_eq_right (kept_succ_le _ _)]

/-- The store agrees with its history. -/
structure Agrees (capacity : ℕ) (past : List Step) (s : Store) : Prop where
  bound : s.capacity = if capacity == 0 then none else some capacity
  appended : s.appended = (appends past).length
  entries : s.entries.toList = held capacity past

theorem agrees_new (capacity : ℕ) : Agrees capacity [] (new capacity) :=
  ⟨rfl, rfl, by simp [held, numbered, appends, new]⟩

variable {capacity : ℕ} {past : List Step} {s : Store}

theorem Agrees.perform (h : Agrees capacity past s) (step : Step) :
    Agrees capacity (past ++ [step]) (s.perform step).2 := by
  cases step with
  | append e =>
      refine ⟨h.bound, ?_, ?_⟩
      · simp [Store.perform, append, h.appended, appends_concat_append]
      · have hsize : s.entries.size = (held capacity past).length := by rw [← h.entries]; simp
        simp only [Store.perform, append, h.bound, toList_evict]
        rw [held_concat_append, Array.toList_push, h.entries, Array.size_push, hsize, h.appended]
  | clear =>
      refine ⟨h.bound, ?_, (held_concat_clear capacity past).symm⟩
      rw [appends_concat (by simp)]
      exact h.appended
  | snapshot | length | last =>
      refine ⟨h.bound, ?_, ?_⟩
      · rw [appends_concat (by simp)]
        exact h.appended
      · rw [held_concat (by simp) (by simp)]
        exact h.entries

theorem Agrees.run (h : Agrees capacity past s) (steps : List Step) :
    Agrees capacity (past ++ steps) (s.run steps).2 := by
  induction steps generalizing past s with
  | nil => simpa [Store.run] using h
  | cons step steps ih => simpa [Store.run] using ih (h.perform step)

theorem agrees_run_new (capacity : ℕ) (steps : List Step) :
    Agrees capacity steps ((new capacity).run steps).2 :=
  (agrees_new capacity).run steps

/-! ## Answers -/

theorem Agrees.lastSequence? (h : Agrees capacity past s) :
    s.lastSequence? =
      if appends past = [] then none else some (UInt64.ofNat (appends past).length) := by
  simp [Store.lastSequence?, h.appended]

theorem Agrees.answers (h : Agrees capacity past s)
    (hcount : (appends past).length + 1 < UInt64.size) (step : Step) :
    Answers capacity past step (s.perform step).1 := by
  have hlength : s.entries.size = (held capacity past).length := by rw [← h.entries]; simp
  cases step with
  | append e =>
      refine .append ?_
      simp only [Store.append, h.appended]
      exact UInt64.toNat_ofNat_of_lt' hcount
  | clear =>
      simp only [Store.perform, Store.clear, hlength]
      exact .clear
  | snapshot =>
      simp only [Store.perform, Store.snapshot, h.entries]
      exact .snapshot
  | length =>
      simp only [Store.perform, Store.length, hlength]
      exact .length
  | last =>
      simp only [Store.perform, h.lastSequence?]
      split
      · rename_i hnone
        exact .none hnone
      · rename_i hsome
        exact .last hsome (UInt64.toNat_ofNat_of_lt' (Nat.lt_of_succ_lt hcount))

/-- An answer is given by the store as the steps before have left it. -/
theorem getElem?_run (s : Store) (past : List Step) (step : Step) (future : List Step) :
    (s.run (past ++ step :: future)).1[past.length]? = some ((s.run past).2.perform step).1 := by
  induction past generalizing s with
  | nil => rfl
  | cons first past ih => simpa [Store.run] using ih (s.perform first).2

theorem sequences_numbered {steps : List Step} (hcount : (appends steps).length < UInt64.size) :
    (numbered steps).map (fun e => e.sequence.toNat) = range' 1 (appends steps).length := by
  refine ext_getElem (by simp [numbered]) fun i hi _ => ?_
  have hlt : i + 1 < UInt64.size := by
    have : i < (appends steps).length := by simpa [numbered] using hi
    omega
  have hid : (UInt64.ofNat (i + 1)).toNat = i + 1 := UInt64.toNat_ofNat_of_lt' hlt
  simp only [numbered, map_map, getElem_map, getElem_zipIdx, Function.comp_apply, Nat.zero_add,
    hid, getElem_range']
  omega

/-- The numbers of what is held are consecutive up to the number of all appends. -/
theorem sequences_held (capacity : ℕ) {steps : List Step}
    (hcount : (appends steps).length < UInt64.size) :
    (held capacity steps).map (fun e => e.sequence.toNat) =
      range' ((appends steps).length + 1 - (held capacity steps).length)
        (held capacity steps).length := by
  have hle := length_held_le capacity steps
  have hdrop : held capacity steps =
      (numbered steps).drop ((appends steps).length - (held capacity steps).length) := by
    rw [length_held, ← length_numbered, held, rtake]
  generalize (held capacity steps).length = n at hle hdrop ⊢
  rw [hdrop, map_drop, sequences_numbered hcount, drop_range']
  congr 1 <;> omega

/-- What is held later has a greater number. -/
theorem pairwise_held (capacity : ℕ) {steps : List Step}
    (hcount : (appends steps).length < UInt64.size) :
    (held capacity steps).Pairwise fun e f => e.sequence < f.sequence := by
  have hrising : ((held capacity steps).map fun e => e.sequence.toNat).Pairwise (· < ·) := by
    rw [sequences_held capacity hcount]
    exact pairwise_lt_range'
  exact (pairwise_map.mp hrising).imp fun h => UInt64.lt_iff_toNat_lt.mpr h

/-- The newest exchange that is held has the number that the store answers for it. -/
theorem lastSequence?_of_getLast? {e : Exchange} (h : Agrees capacity past s)
    (hcount : (appends past).length < UInt64.size) (he : (held capacity past).getLast? = some e) :
    s.lastSequence? = some e.sequence := by
  have hlast := congrArg getLast? (sequences_held capacity hcount)
  have hne : (held capacity past).length ≠ 0 := by
    rw [Ne, length_eq_zero_iff]
    rintro hnil
    rw [hnil] at he
    cases he
  have hle := length_held_le capacity past
  rw [getLast?_map, he, getLast?_range', if_neg hne] at hlast
  have hsequence : e.sequence.toNat = (appends past).length := by
    have hend : e.sequence.toNat = _ := Option.some.inj hlast
    omega
  have happended : appends past ≠ [] := by
    rw [Ne, ← length_eq_zero_iff]
    omega
  rw [h.lastSequence?, if_neg happended, ← hsequence, UInt64.ofNat_toNat]

/-- A store to which exchanges were appended one after another: each of them was given one number,
from the next one on, and was changed in nothing else. -/
structure Continued (capacity : ℕ) (past : List Step) (entries : List Exchange) (s : Store) :
    Prop where
  store : s = ((new capacity).run (past ++ entries.map .append)).2
  snapshot : s.snapshot = held capacity (past ++ entries.map .append)
  numbered : numbered (past ++ entries.map .append) =
    numbered past ++ numberedFrom (appends past).length entries
  sequences : (numberedFrom (appends past).length entries).map (fun e => e.sequence.toNat) =
    range' ((appends past).length + 1) entries.length

theorem continued_run (capacity : ℕ) (past : List Step) (entries : List Exchange)
    (hcount : (appends past).length + entries.length < UInt64.size) :
    Continued capacity past entries
      (((new capacity).run past).2.run (entries.map .append)).2 := by
  have hrun := run_append (new capacity) past (entries.map .append)
  have hnumbered := numbered_append past entries
  have hlength : (appends (past ++ entries.map .append)).length =
      (appends past).length + entries.length := by
    rw [← length_numbered, hnumbered, length_append, length_numbered, numberedFrom, length_map,
      length_zipIdx]
  have hpast := sequences_numbered (Nat.lt_of_le_of_lt (Nat.le_add_right _ _) hcount)
  have hsequences := sequences_numbered (hlength ▸ hcount)
  rw [hnumbered, map_append, hpast, hlength, ← range'_append, Nat.one_mul, append_cancel_left_eq,
    Nat.add_comm] at hsequences
  refine ⟨hrun.symm, ?_, hnumbered, hsequences⟩
  rw [← hrun]
  exact (agrees_run_new capacity _).entries

/-- At every point of every use, a store answers and holds what its history tells. -/
theorem run_new (capacity : ℕ) (steps : List Step) (h : (appends steps).length < UInt64.size - 1) :
    (∀ past step future, steps = past ++ step :: future →
      ∃ answer, ((new capacity).run steps).1[past.length]? = some answer ∧
        Answers capacity past step answer) ∧
    let s := ((new capacity).run steps).2
    s.snapshot = held capacity steps ∧
      (capacity ≠ 0 → s.snapshot.length ≤ capacity) ∧
      s.snapshot.map (fun e => e.sequence.toNat) =
        range' ((appends steps).length + 1 - s.snapshot.length) s.snapshot.length ∧
      ∀ e, s.snapshot.getLast? = some e → s.lastSequence? = some e.sequence := by
  have hagrees := agrees_run_new capacity steps
  have hsnapshot : ((new capacity).run steps).2.snapshot = held capacity steps := hagrees.entries
  refine ⟨?_, hsnapshot, ?_, ?_, ?_⟩
  · rintro past step future rfl
    have hpast : (appends past).length ≤ (appends (past ++ step :: future)).length := by
      simp [appends]
    refine ⟨_, getElem?_run _ past step future, ?_⟩
    exact (agrees_run_new capacity past).answers (by omega) step
  · intro hbounded
    rw [hsnapshot, length_held, kept, if_neg hbounded]
    exact Nat.min_le_right _ _
  · rw [hsnapshot]
    exact sequences_held capacity (by omega)
  · rw [hsnapshot]
    exact fun e he => lastSequence?_of_getLast? hagrees (by omega) he

theorem run_new_evicting :
    let s := ((new 2).run [.append {}, .append {}, .append {}]).2
    s.snapshot.length ≤ 2 ∧ s.snapshot.map (fun e => e.sequence.toNat) = [2, 3] := by
  obtain ⟨-, -, hbounded, hsequences, -⟩ :=
    run_new 2 [.append {}, .append {}, .append {}] (by decide)
  exact ⟨hbounded (by decide), hsequences.trans (by decide)⟩

end TrafficCapture.Store
