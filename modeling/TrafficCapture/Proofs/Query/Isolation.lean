import TrafficCapture.Proofs.Query.Scan
import TrafficCapture.Proofs.Store.History
import TrafficCapture.Store.Registry

/-! # Queries beside other tasks

A query works in turns and lets other tasks use the stores between them. Whatever they do, it
answers what a scan of its first snapshot answers, and that is everything it is to select unless a
batch came upon the deadline. -/

namespace TrafficCapture

open List

/-- What a task may do to the stores. -/
inductive Registry.Act where
  | append (ref : StoreRef) (e : Exchange)
  | clear (ref : StoreRef)
  | init (capacity : ℕ)
  | teardown
  deriving DecidableEq

def Registry.perform (r : Registry) : Registry.Act → Registry
  | .append ref e => (r.append ref e).2
  | .clear ref => (r.clear ref).2
  | .init capacity => (r.init capacity).2
  | .teardown => r.teardown.2

namespace Query

/-! ## Turns -/

/-- What a query is for: everything it selects, or the latest of it alone. -/
inductive Aim where
  | all
  | latest
  deriving DecidableEq

/-- A snapshot in the order in which it is looked through. -/
def Aim.view : Aim → List Exchange → List Exchange
  | .all, snapshot => snapshot
  | .latest, snapshot => snapshot.reverse

/-- A query with all that it is answered by, apart from the stores. -/
structure Inquiry where
  aim : Aim
  ports : PortFilter
  pattern : Pattern
  deadline : Option Int
  clock : Clock

/-- How far a query has come when other tasks have their turns. -/
inductive Progress where
  | asked (ref : StoreRef)
  /-- Some batches are done, and the next one may begin. -/
  | scanning (done : ℕ) (kept left : List Exchange)
  | answered (answer : Except Failure (List Exchange))

namespace Inquiry

/-- Comes to the next batch, if there is one. -/
def enter (q : Inquiry) (done : ℕ) (kept left : List Exchange) : Progress :=
  if left.isEmpty then .answered (.ok kept)
  else
    match checkAt q.deadline q.clock (done * batch) with
    | .error failure => .answered (.error failure)
    | .ok () => .scanning done kept left

/-- Goes through one batch. -/
def scan (q : Inquiry) (done : ℕ) (kept left : List Exchange) : Progress :=
  let found := (left.take batch).filter (selects q.ports q.pattern)
  match q.aim, found with
  | .latest, e :: _ => .answered (.ok (kept ++ [e]))
  | _, _ => q.enter (done + 1) (kept ++ found) (left.drop batch)

/-- One turn. Only the first one looks at a store. -/
def turn (q : Inquiry) (r : Registry) : Progress → Progress
  | .asked ref => q.enter 0 [] (q.aim.view (r.store ref).snapshot)
  | .scanning done kept left => q.scan done kept left
  | .answered answer => .answered answer

/-- Who has the next turn. -/
inductive Event where
  | turn
  | other (act : Registry.Act)
  deriving DecidableEq

def step (q : Inquiry) : Registry × Progress → Event → Registry × Progress
  | (r, p), .turn => (r, q.turn r p)
  | (r, p), .other act => (r.perform act, p)

def run (q : Inquiry) (state : Registry × Progress) (events : List Event) : Registry × Progress :=
  events.foldl q.step state

/-! ## What is answered -/

/-- What the scan of a snapshot answers. -/
def answer (q : Inquiry) (snapshot : List Exchange) : Except Failure (List Exchange) :=
  match q.aim with
  | .all => filter q.deadline q.clock q.ports q.pattern snapshot
  | .latest => Option.toList <$> mostRecent q.deadline q.clock q.ports q.pattern snapshot

/-- What the rest of a scan answers. -/
def remainder (q : Inquiry) (done : ℕ) (kept left : List Exchange) :
    Except Failure (List Exchange) :=
  match q.aim with
  | .all => filterFrom q.deadline q.clock (selects q.ports q.pattern) (done * batch) kept.reverse left
  | .latest =>
      (fun o => kept ++ Option.toList o) <$>
        findFrom q.deadline q.clock (selects q.ports q.pattern) (done * batch) left

theorem remainder_view (q : Inquiry) (snapshot : List Exchange) :
    q.remainder 0 [] (q.aim.view snapshot) = q.answer snapshot := by
  unfold remainder answer
  cases q.aim <;> simp [Aim.view, filter, mostRecent]

/-- The query is on its way to an answer. -/
inductive Pursues (q : Inquiry) (answer : Except Failure (List Exchange)) : Progress → Prop
  | scanning {done : ℕ} {kept left : List Exchange}
      (timely : ¬ Expired q.deadline q.clock (done * batch)) (nonempty : left ≠ [])
      (rest : q.remainder done kept left = answer) : Pursues q answer (.scanning done kept left)
  | answered : Pursues q answer (.answered answer)

section

variable {q : Inquiry} {done : ℕ} {kept left : List Exchange}
  {answer : Except Failure (List Exchange)}

theorem remainder_nil (q : Inquiry) (done : ℕ) (kept : List Exchange) :
    q.remainder done kept [] = .ok kept := by
  unfold remainder
  cases q.aim with
  | all => simp [filterFrom]
  | latest => simp [findFrom]

theorem remainder_of_expired (h : Expired q.deadline q.clock (done * batch)) (hne : left ≠ []) :
    q.remainder done kept left = .error (givenUp q.clock (done * batch)) := by
  unfold remainder
  cases q.aim with
  | all => exact filterFrom_of_expired h hne
  | latest =>
      simp only [findFrom_of_expired h hne]
      rfl

theorem pursues_enter (q : Inquiry) (done : ℕ) (kept left : List Exchange) :
    q.Pursues (q.remainder done kept left) (q.enter done kept left) := by
  unfold enter
  split
  · rename_i hempty
    rw [isEmpty_iff.mp hempty, remainder_nil]
    exact .answered
  · rename_i hsome
    have hne : left ≠ [] := fun h => hsome (isEmpty_iff.mpr h)
    by_cases hexpired : Expired q.deadline q.clock (done * batch)
    · rw [checkAt_of_expired hexpired, remainder_of_expired hexpired hne]
      exact .answered
    · rw [checkAt_of_not_expired hexpired]
      exact .scanning hexpired hne rfl

/-- A batch leaves the answer as it was. -/
theorem pursues_scan (h : ¬ Expired q.deadline q.clock (done * batch)) :
    q.Pursues (q.remainder done kept left) (q.scan done kept left) := by
  have henter := pursues_enter q (done + 1)
    (kept ++ (left.take batch).filter (selects q.ports q.pattern)) (left.drop batch)
  cases haim : q.aim with
  | all =>
      have hbatch := filterFrom_batch (selects q.ports q.pattern) h kept.reverse left
      simp only [remainder, scan, haim, hbatch] at henter ⊢
      rwa [reverse_append] at henter
  | latest =>
      have hbatch := findFrom_batch (selects q.ports q.pattern) h left
      rw [← head?_filter] at hbatch
      cases hfound : (left.take batch).filter (selects q.ports q.pattern) with
      | nil =>
          simp only [remainder, scan, haim, hbatch, hfound, head?_nil, append_nil] at henter ⊢
          exact henter
      | cons e more =>
          simp only [remainder, scan, haim, hbatch, hfound, head?_cons]
          exact .answered

theorem pursues_turn (r : Registry) {p : Progress} (h : q.Pursues answer p) :
    q.Pursues answer (q.turn r p) := by
  cases h with
  | scanning timely _ rest =>
      rw [← rest]
      exact pursues_scan timely
  | answered => exact .answered

theorem pursues_run (events : List Event) (r : Registry) {p : Progress} (h : q.Pursues answer p) :
    q.Pursues answer (q.run (r, p) events).2 := by
  induction events generalizing r p with
  | nil => exact h
  | cons event events ih =>
      cases event with
      | turn => exact ih r (pursues_turn r h)
      | other act => exact ih (r.perform act) h

/-! ## The answer comes -/

/-- No more than so many batches are left. -/
inductive Within (batches : ℕ) : Progress → Prop
  | scanning {done : ℕ} {kept left : List Exchange} (nonempty : left ≠ [])
      (short : left.length ≤ batches * batch) : Within batches (.scanning done kept left)
  | answered {answer : Except Failure (List Exchange)} : Within batches (.answered answer)

theorem within_enter (q : Inquiry) (done : ℕ) (kept : List Exchange) {batches : ℕ}
    (h : left.length ≤ batches * batch) : Within batches (q.enter done kept left) := by
  unfold enter
  split
  · exact .answered
  · rename_i hsome
    split
    · exact .answered
    · exact .scanning (fun hnil => hsome (isEmpty_iff.mpr hnil)) h

theorem within_turn (q : Inquiry) (r : Registry) {batches : ℕ} {p : Progress}
    (h : Within (batches + 1) p) : Within batches (q.turn r p) := by
  cases h with
  | answered => exact .answered
  | scanning nonempty short =>
      simp only [turn, scan]
      split
      · exact .answered
      · apply within_enter
        rw [length_drop]
        rw [Nat.succ_mul] at short
        omega

theorem Within.answered_of_zero {p : Progress} (h : Within 0 p) :
    ∃ answer, p = .answered answer := by
  cases h with
  | answered => exact ⟨_, rfl⟩
  | scanning nonempty short =>
      rw [Nat.zero_mul, Nat.le_zero, length_eq_zero_iff] at short
      exact (nonempty short).elim

theorem Within.mono {m n : ℕ} {p : Progress} (h : Within m p) (hm : m ≤ n) : Within n p := by
  cases h with
  | answered => exact .answered
  | scanning nonempty short =>
      exact .scanning nonempty (short.trans (Nat.mul_le_mul_right batch hm))

theorem within_run (q : Inquiry) (events : List Event) (r : Registry) {batches : ℕ} {p : Progress}
    (h : Within (batches + events.count .turn) p) : Within batches (q.run (r, p) events).2 := by
  induction events generalizing r p with
  | nil => exact h
  | cons event events ih =>
      cases event with
      | turn =>
          rw [count_cons_self] at h
          exact ih r (within_turn q r h)
      | other act =>
          rw [count_cons_of_ne (by simp)] at h
          exact ih (r.perform act) h

end

/-- A query that has its turns answers, and it answers what the scan of the snapshot does that it
took in the first of them. -/
theorem run_asked (q : Inquiry) (r : Registry) (ref : StoreRef) (events : List Event) :
    (∀ answer, (q.run (r, .asked ref) (.turn :: events)).2 = .answered answer →
        answer = q.answer (r.store ref).snapshot) ∧
      ((r.store ref).snapshot.length / batch < events.count .turn →
        ∃ answer, (q.run (r, .asked ref) (.turn :: events)).2 = .answered answer) := by
  constructor
  · intro answer hanswer
    have hfirst := pursues_enter q 0 [] (q.aim.view (r.store ref).snapshot)
    rw [remainder_view] at hfirst
    have hpursues : q.Pursues _ (q.run (r, .asked ref) (.turn :: events)).2 :=
      pursues_run events r hfirst
    rw [hanswer] at hpursues
    cases hpursues
    rfl
  · intro hturns
    have hlength : (q.aim.view (r.store ref).snapshot).length = (r.store ref).snapshot.length := by
      cases q.aim with
      | all => rfl
      | latest => exact length_reverse
    have hshort : (q.aim.view (r.store ref).snapshot).length ≤
        (0 + events.count .turn) * batch := by
      have hbatches := Nat.lt_mul_of_div_lt hturns (by decide)
      rw [hlength, Nat.zero_add]
      exact Nat.le_of_lt hbatches
    exact (within_run q events r (within_enter q 0 [] hshort)).answered_of_zero

end Inquiry

/-- A query that is put to a store as its history has left it finds exchanges under rising
numbers. -/
theorem pairwise_sequence_filter (capacity : ℕ) {steps : List Store.Step} (wanted : Exchange → Bool)
    (hcount : (Store.appends steps).length < UInt64.size) :
    (((Store.new capacity).run steps).2.snapshot.filter wanted).Pairwise
      fun a b => a.sequence < b.sequence := by
  have hsnapshot : ((Store.new capacity).run steps).2.snapshot = Store.held capacity steps :=
    (Store.agrees_run_new capacity steps).entries
  rw [hsnapshot]
  exact (Store.pairwise_held capacity hcount).filter wanted

/-- Whatever other tasks do between its turns and whatever the clock reads, a query answers from
the snapshot that its first turn takes. It runs out of time if and only if a batch of the snapshot
comes upon the deadline, and then it answers nothing else. Otherwise it answers all that it is to
select, in the order of the snapshot. Asked for the latest alone, it answers the last of that, unless
it runs out of time before it has come so far. -/
theorem inquiry_exact (ports : PortFilter) (pattern : Pattern) (deadline : Option Int)
    (clock : Clock) (r : Registry) (ref : StoreRef) :
    let snapshot := (r.store ref).snapshot
    let found := snapshot.filter fun e => ports.admits e && pattern.accepts e.url
    let ended (aim : Aim) (events : List Inquiry.Event) : Progress :=
      (Inquiry.run ⟨aim, ports, pattern, deadline, clock⟩ (r, .asked ref) (.turn :: events)).2
    (∀ events answer, ended .all events = .answered answer →
        answer = filter deadline clock ports pattern snapshot) ∧
      (∀ events answer, ended .latest events = .answered answer →
        answer = Option.toList <$> mostRecent deadline clock ports pattern snapshot) ∧
      (∀ aim events, snapshot.length / batch < events.count .turn →
        ∃ answer, ended aim events = .answered answer) ∧
      ((Overdue deadline clock snapshot.length ∧
          ∃ ms, filter deadline clock ports pattern snapshot = .error (.timeout ms)) ∨
        (¬ Overdue deadline clock snapshot.length ∧
          filter deadline clock ports pattern snapshot = .ok found)) ∧
      ((∃ index < snapshot.length, Expired deadline clock index ∧
          (∀ e ∈ snapshot.reverse.take index, e ∉ found) ∧
          ∃ ms, mostRecent deadline clock ports pattern snapshot = .error (.timeout ms)) ∨
        ((∀ index < snapshot.length, Expired deadline clock index →
            ∃ e ∈ snapshot.reverse.take index, e ∈ found) ∧
          mostRecent deadline clock ports pattern snapshot = .ok found.getLast?)) ∧
      (snapshot = [] → filter deadline clock ports pattern snapshot = .ok [] ∧
        mostRecent deadline clock ports pattern snapshot = .ok none) ∧
      ∀ capacity steps, (Store.appends steps).length < UInt64.size →
        r.store ref = ((Store.new capacity).run steps).2 →
        found.Pairwise fun a b => a.sequence < b.sequence := by
  intro snapshot found ended
  have hrun (aim : Aim) := Inquiry.run_asked ⟨aim, ports, pattern, deadline, clock⟩ r ref
  -- among the exchanges of the snapshot, those that are found are those that are selected
  have hfound {index : ℕ} {e : Exchange} (he : e ∈ snapshot.reverse.take index) :
      e ∈ found ↔ selects ports pattern e = true := by
    have hin : e ∈ snapshot := mem_reverse.mp (mem_of_mem_take he)
    rw [mem_filter]
    exact ⟨fun h => h.2, fun h => ⟨hin, h⟩⟩
  refine ⟨fun events => (hrun .all events).1, fun events => (hrun .latest events).1,
    fun aim events => (hrun aim events).2, filter_spec deadline clock ports pattern snapshot, ?_,
    fun hempty => ?_, fun capacity steps hcount hstore => ?_⟩
  · rcases mostRecent_spec deadline clock ports pattern snapshot with
      ⟨index, hi, hexpired, hnone, hgiven⟩ | ⟨htimely, hlast⟩
    · refine .inl ⟨index, hi, hexpired, fun e he hin => ?_, hgiven⟩
      have hselected := (hfound he).mp hin
      rw [hnone e he] at hselected
      cases hselected
    · refine .inr ⟨fun index hi hexpired => ?_, hlast⟩
      obtain ⟨e, he, hselected⟩ := htimely index hi hexpired
      exact ⟨e, he, (hfound he).mpr hselected⟩
  · rw [hempty]
    exact ⟨rfl, rfl⟩
  · simp only [found, snapshot]
    rw [hstore]
    exact pairwise_sequence_filter capacity _ hcount

/-! ## One query -/

/-- The pattern for the text of one letter. -/
def letterPattern : Pattern where
  source := "a"
  track := .seq (.check .textStart) (.seq (.chars ⟨[(97, 97)]⟩ false) (.check .textEnd))

/-- A store with three exchanges, of which the first alone is of port 80 and has that letter for
its URL. -/
def letterSteps : List Store.Step :=
  [.append { url := "a", port := 80 }, .append { url := "b", port := 80 },
    .append { url := "a", port := 81 }]

/-- The store is cleared and let go of before the query has come to its end. -/
theorem inquiry_exact_letter :
    let r : Registry := ⟨#[((Store.new 0).run letterSteps).2], some ⟨0⟩⟩
    (Inquiry.run ⟨.all, .only 80, letterPattern, some 7, .still 5⟩ (r, .asked ⟨0⟩)
        [.turn, .other (.clear ⟨0⟩), .other .teardown, .turn]).2 =
      .answered (.ok [{ url := "a", port := 80, sequence := 1 }]) := by
  intro r
  obtain ⟨hall, -, hends, hfilter, -⟩ :=
    inquiry_exact (.only 80) letterPattern (some 7) (.still 5) r ⟨0⟩
  obtain ⟨answer, hanswer⟩ := hends .all [.other (.clear ⟨0⟩), .other .teardown, .turn] (by decide)
  have htimely : ¬ Overdue (some 7) (.still 5) (r.store ⟨0⟩).snapshot.length := by decide
  rcases hfilter with ⟨hoverdue, -⟩ | ⟨-, hfound⟩
  · exact (htimely hoverdue).elim
  · refine hanswer.trans ?_
    rw [hall _ _ hanswer, hfound]
    have hone : (r.store ⟨0⟩).snapshot.filter
        (fun e => (PortFilter.only 80).admits e && letterPattern.accepts e.url) =
          [{ url := "a", port := 80, sequence := 1 }] := by
      decide +kernel
    rw [hone]

end Query

end TrafficCapture
