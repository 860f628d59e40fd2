import TrafficCapture.Proofs.Store.History
import TrafficCapture.Store.Registry

/-! # The life of stores

Handles that are clones of each other share what is current. Stores come and go through them, and a
store can be used through every reference to it that was ever handed out, whatever has become of
the handles. What is current follows from the latest opening or teardown, and what a store holds
follows from what was done with that store alone. -/

namespace TrafficCapture.Registry

open List

/-- One use of a clone of a handle, or of a store through a reference. -/
inductive Use where
  | init (clone capacity : ℕ)
  | teardown (clone : ℕ)
  | get (clone : ℕ)
  | through (ref : StoreRef) (step : Store.Step)
  deriving DecidableEq

/-- What a use answers. -/
inductive Answer where
  | opened (ref : StoreRef)
  | detached (ref : Option StoreRef)
  | found (result : Except Query.Failure StoreRef)
  | used (answer : Store.Answer)

/-- The reference that an answer hands out, if it does. -/
def Answer.ref? : Answer → Option StoreRef
  | .opened ref => some ref
  | .detached ref => ref
  | .found result => result.toOption
  | .used _ => none

/-- Uses a store through a reference to it. -/
def through (r : Registry) (ref : StoreRef) : Store.Step → Store.Answer × Registry
  | .append e => (.assigned (r.append ref e).1, (r.append ref e).2)
  | .clear => (.removed (r.clear ref).1, (r.clear ref).2)
  | .snapshot => (.taken (r.store ref).snapshot, r)
  | .length => (.counted (r.store ref).length, r)
  | .last => (.newest (r.store ref).lastSequence?, r)

/-- It makes no difference which of its clones a handle is used through. -/
def use (r : Registry) : Use → Answer × Registry
  | .init _ capacity => (.opened (r.init capacity).1, (r.init capacity).2)
  | .teardown _ => (.detached r.teardown.1, r.teardown.2)
  | .get _ => (.found r.get, r)
  | .through ref step => (.used (r.through ref step).1, (r.through ref step).2)

/-! ## What the past tells -/

/-- How a store came to a handle: its capacity, and what was done with it before. -/
structure Founding where
  capacity : ℕ
  before : List Store.Step := []
  deriving DecidableEq

/-- The store that was founded so, used by itself. -/
def Founding.alone (f : Founding) (own : List Store.Step) : Store :=
  ((Store.new f.capacity).run (f.before ++ own)).2

/-- The stores of a handle that is new, or that was made with a store. -/
def ofHandle : Option Founding → Registry
  | none => new
  | some f => (new.install (f.alone [])).2

/-- What was done and answered, the latest first. -/
abbrev Log := List (Use × Answer)

section

variable (start : Option Founding)

/-- What the latest opening or teardown has left. -/
def present : Log → Option StoreRef
  | [] => start.map fun _ => ⟨0⟩
  | (.init .., .opened ref) :: _ => some ref
  | (.teardown _, _) :: _ => none
  | _ :: past => present past

/-- The references that were handed out, with the one that a handle was made with. -/
def obtained : Log → List StoreRef
  | [] => (present start []).toList
  | event :: past => event.2.ref?.toList ++ obtained past

/-- The steps that a store was used by. -/
def own (ref : StoreRef) : Log → List Store.Step
  | [] => []
  | (.through other step, _) :: past => own ref past ++ if other = ref then [step] else []
  | _ :: past => own ref past

/-- How the store came to be that a reference refers to: a handle was made with it, or it was
opened when none was current. -/
inductive Founded : Log → StoreRef → Founding → Prop where
  | given {f : Founding} (h : start = some f) : Founded [] ⟨0⟩ f
  | fresh {past : Log} {clone capacity : ℕ} {ref : StoreRef} (h : present start past = none) :
      Founded ((.init clone capacity, .opened ref) :: past) ref ⟨capacity, []⟩
  | later {past : Log} {event : Use × Answer} {ref : StoreRef} {f : Founding}
      (h : Founded past ref f) : Founded (event :: past) ref f

/-- What a use answers behind the past. -/
inductive Told (past : Log) : Use → Answer → Prop where
  | kept {clone capacity : ℕ} {ref : StoreRef} (h : present start past = some ref) :
      Told past (.init clone capacity) (.opened ref)
  | fresh {clone capacity : ℕ} {ref : StoreRef} (h : present start past = none)
      (hnew : ref ∉ obtained start past) : Told past (.init clone capacity) (.opened ref)
  | detached {clone : ℕ} : Told past (.teardown clone) (.detached (present start past))
  | found {clone : ℕ} {ref : StoreRef} (h : present start past = some ref) :
      Told past (.get clone) (.found (.ok ref))
  | unavailable {clone : ℕ} (h : present start past = none) :
      Told past (.get clone) (.found (.error .storeUnavailable))
  | used {ref : StoreRef} {step : Store.Step} {f : Founding} (h : Founded start past ref f) :
      Told past (.through ref step) (.used ((f.alone (own ref past)).perform step).1)

/-- A use can be made at any time, but of a store only through a reference that was handed out. -/
def Use.Possible (past : Log) : Use → Prop
  | .through ref _ => ref ∈ obtained start past
  | _ => True

instance (past : Log) (u : Use) : Decidable (u.Possible start past) :=
  match u with
  | .through ref _ => inferInstanceAs (Decidable (ref ∈ obtained start past))
  | .init .. | .teardown _ | .get _ => isTrue trivial

/-- What can come of a handle, its clones and all references that they hand out. -/
inductive Ran : Log → Registry → Prop where
  | start : Ran [] (ofHandle start)
  | next {past : Log} {r : Registry} (h : Ran past r) (u : Use) (hu : u.Possible start past) :
      Ran ((u, (r.use u).1) :: past) (r.use u).2

end

/-! ## Stores side by side -/

section

variable {r : Registry} {ref other : StoreRef}

/-- Whatever a store is used for, that use is a step of it. -/
theorem through_eq (r : Registry) (ref : StoreRef) (step : Store.Step) :
    r.through ref step = r.update ref (·.perform step) := by
  have hsame : r.stores.setIfInBounds ref.index (r.store ref) = r.stores := by
    by_cases hin : ref.index < r.stores.size
    · simp [store, hin, Array.setIfInBounds]
    · exact Array.setIfInBounds_eq_of_size_le (Nat.le_of_not_lt hin)
  cases step with
  | append e => rfl
  | clear => rfl
  | snapshot | length | last => simp only [through, update, Store.perform, hsame]

/-- A step of one store leaves all others as they are. -/
theorem store_through (hin : ref.index < r.stores.size) (step : Store.Step) (other : StoreRef) :
    (r.through ref step).2.store other =
      if ref = other then ((r.store ref).perform step).2 else r.store other := by
  rw [through_eq]
  simp only [update, store]
  split
  · rename_i hsame
    simp [← hsame, hin]
  · rename_i hne
    have hindex : ref.index ≠ other.index := fun h => hne (congrArg StoreRef.mk h)
    simp [Array.getD_eq_getD_getElem?, Array.getElem?_setIfInBounds_ne hindex]

theorem size_through (r : Registry) (ref : StoreRef) (step : Store.Step) :
    (r.through ref step).2.stores.size = r.stores.size := by
  rw [through_eq]
  simp [update]

theorem current_through (r : Registry) (ref : StoreRef) (step : Store.Step) :
    (r.through ref step).2.current = r.current := by
  rw [through_eq]
  rfl

theorem store_install (r : Registry) (s : Store) (other : StoreRef) :
    (r.install s).2.store other = if other = ⟨r.stores.size⟩ then s else r.store other := by
  simp only [install, store]
  split
  · rename_i hnew
    simp [hnew]
  · rename_i hne
    have hindex : other.index ≠ r.stores.size := fun h => hne (congrArg StoreRef.mk h)
    simp [Array.getD_eq_getD_getElem?, Array.getElem?_push, hindex]

end

/-! ## Every store agrees with its own history -/

section

variable {start : Option Founding} {past : Log} {r : Registry}

theorem founded_cons_iff {event : Use × Answer} {ref : StoreRef} {f : Founding} :
    Founded start (event :: past) ref f ↔ Founded start past ref f ∨
      present start past = none ∧ f.before = [] ∧
        ∃ clone, event = (.init clone f.capacity, .opened ref) := by
  constructor
  · intro h
    cases h with
    | fresh h => exact Or.inr ⟨h, rfl, _, rfl⟩
    | later h => exact Or.inl h
  · rintro (h | ⟨h, hbefore, clone, rfl⟩)
    · exact .later h
    · cases f
      cases hbefore
      exact .fresh h

/-- Only an opening without a current store founds one. -/
theorem Founded.of_cons {event : Use × Answer} {ref : StoreRef} {f : Founding}
    (h : Founded start (event :: past) ref f)
    (hold : present start past = none → ∀ clone capacity,
      event ≠ (.init clone capacity, .opened ref)) : Founded start past ref f := by
  refine (founded_cons_iff.mp h).resolve_right ?_
  rintro ⟨hnone, -, clone, he⟩
  exact hold hnone clone f.capacity he

theorem Founding.alone_concat (f : Founding) (own : List Store.Step) (step : Store.Step) :
    f.alone (own ++ [step]) = ((f.alone own).perform step).2 := by
  rw [alone, alone, ← append_assoc, Store.run_append]
  rfl

theorem Founding.agrees_alone (f : Founding) (own : List Store.Step) :
    Store.Agrees f.capacity (f.before ++ own) (f.alone own) :=
  Store.agrees_run_new f.capacity (f.before ++ own)

/-- What is present was handed out. -/
theorem mem_obtained_of_present {ref : StoreRef} (h : present start past = some ref) :
    ref ∈ obtained start past := by
  induction past with
  | nil => simp [obtained, h]
  | cons event past ih =>
      obtain ⟨u, a⟩ := event
      rw [obtained, mem_append]
      cases u with
      | init clone capacity =>
          cases a with
          | opened opened =>
              obtain rfl : opened = ref := Option.some.inj h
              exact Or.inl (by simp [Answer.ref?])
          | _ => exact Or.inr (ih h)
      | teardown clone => cases h
      | get clone => exact Or.inr (ih h)
      | through other step => exact Or.inr (ih h)

/-- The stores are as the past tells. -/
structure Kept (start : Option Founding) (past : Log) (r : Registry) : Prop where
  current : r.current = present start past
  known : ∀ ref ∈ obtained start past, ∃ f, Founded start past ref f
  bounded : ∀ ref f, Founded start past ref f → ref.index < r.stores.size
  unique : ∀ ref f f', Founded start past ref f → Founded start past ref f' → f' = f
  unused : ∀ ref, r.stores.size ≤ ref.index → own ref past = []
  store : ∀ ref f, Founded start past ref f → r.store ref = f.alone (own ref past)

theorem kept_ofHandle (start : Option Founding) : Kept start [] (ofHandle start) := by
  cases start with
  | none =>
      refine ⟨rfl, ?_, ?_, ?_, fun _ _ => rfl, ?_⟩
      · intro ref href
        simp [obtained, present] at href
      · rintro ref f ⟨⟨⟩⟩
      · rintro ref f f' ⟨⟨⟩⟩
      · rintro ref f ⟨⟨⟩⟩
  | some f =>
      refine ⟨rfl, ?_, ?_, ?_, fun _ _ => rfl, ?_⟩
      · intro ref href
        obtain rfl : ref = ⟨0⟩ := by simpa [obtained, present] using href
        exact ⟨f, .given rfl⟩
      · rintro ref _ ⟨⟨⟩⟩
        exact Nat.one_pos
      · rintro ref _ _ ⟨⟨⟩⟩ ⟨⟨⟩⟩
        rfl
      · rintro ref _ ⟨⟨⟩⟩
        rfl

/-- A use that opens no store and steps none, and hands out nothing new. -/
theorem Kept.quiet (h : Kept start past r) {event : Use × Answer} {r' : Registry}
    (hstores : r'.stores = r.stores) (hcurrent : r'.current = present start (event :: past))
    (hout : ∀ ref, event.2.ref? = some ref → ref ∈ obtained start past)
    (hold : present start past = none → ∀ clone capacity ref,
      event ≠ (.init clone capacity, .opened ref))
    (hown : ∀ ref, own ref (event :: past) = own ref past) : Kept start (event :: past) r' := by
  have hfounds {ref : StoreRef} {f : Founding} (hf : Founded start (event :: past) ref f) :
      Founded start past ref f :=
    hf.of_cons fun hnone clone capacity => hold hnone clone capacity ref
  refine ⟨hcurrent, ?_, ?_, ?_, ?_, ?_⟩
  · intro ref href
    rw [obtained, mem_append, Option.mem_toList] at href
    obtain ⟨f, hf⟩ := h.known ref (href.elim (hout ref) id)
    exact ⟨f, .later hf⟩
  · rw [hstores]
    exact fun ref f hf => h.bounded ref f (hfounds hf)
  · exact fun ref f f' hf hf' => h.unique ref f f' (hfounds hf) (hfounds hf')
  · intro ref hout
    rw [hstores] at hout
    rw [hown, h.unused ref hout]
  · intro ref f hf
    have hsame : r'.store ref = r.store ref := by rw [Registry.store, Registry.store, hstores]
    rw [hsame, hown]
    exact h.store ref f (hfounds hf)

/-- The next reference was not handed out yet. -/
theorem Kept.next_notMem (h : Kept start past r) : ⟨r.stores.size⟩ ∉ obtained start past := by
  intro hmem
  obtain ⟨f, hf⟩ := h.known _ hmem
  exact Nat.lt_irrefl _ (h.bounded _ f hf)

/-- A store that is opened when none is current. -/
theorem Kept.fresh (h : Kept start past r) (hnone : present start past = none)
    (clone capacity : ℕ) :
    Kept start ((.init clone capacity, .opened ⟨r.stores.size⟩) :: past)
      (r.install (Store.new capacity)).2 := by
  -- the new reference is beyond all that were founded, so that nothing is known of it yet
  have hfounds {ref : StoreRef} {f : Founding}
      (hf : Founded start ((.init clone capacity, .opened ⟨r.stores.size⟩) :: past) ref f) :
      Founded start past ref f ∨ ref = ⟨r.stores.size⟩ ∧ f = ⟨capacity, []⟩ := by
    refine (founded_cons_iff.mp hf).imp_right ?_
    obtain ⟨c, before⟩ := f
    rintro ⟨-, rfl, clone', he⟩
    cases he
    exact ⟨rfl, rfl⟩
  have hold {f : Founding} (hf : Founded start past ⟨r.stores.size⟩ f) : False :=
    Nat.lt_irrefl _ (h.bounded _ f hf)
  have hsize : (r.install (Store.new capacity)).2.stores.size = r.stores.size + 1 := by
    simp [install]
  refine ⟨rfl, ?_, ?_, ?_, ?_, ?_⟩
  · intro ref href
    rw [obtained, mem_append] at href
    rcases href with hnew | hpast
    · obtain rfl : ref = ⟨r.stores.size⟩ := by simpa [Answer.ref?, eq_comm] using hnew
      exact ⟨_, .fresh hnone⟩
    · obtain ⟨f, hf⟩ := h.known ref hpast
      exact ⟨f, .later hf⟩
  · intro ref f hf
    rw [hsize]
    rcases hfounds hf with hf | ⟨rfl, -⟩
    · exact Nat.lt_succ_of_lt (h.bounded ref f hf)
    · exact Nat.lt_succ_self _
  · intro ref f f' hf hf'
    rcases hfounds hf with hf | ⟨rfl, rfl⟩
    · rcases hfounds hf' with hf' | ⟨rfl, -⟩
      · exact h.unique ref f f' hf hf'
      · exact (hold hf).elim
    · rcases hfounds hf' with hf' | ⟨-, rfl⟩
      · exact (hold hf').elim
      · rfl
  · intro ref hout
    rw [hsize] at hout
    exact h.unused ref (Nat.le_of_succ_le hout)
  · intro ref f hf
    rw [store_install]
    rcases hfounds hf with hf | ⟨rfl, rfl⟩
    · rw [if_neg]
      · exact h.store ref f hf
      · rintro rfl
        exact hold hf
    · have hown : own ⟨r.stores.size⟩ past = [] := h.unused _ (Nat.le_refl _)
      simp [own, hown, Founding.alone, Store.run]

/-- A step of one store. -/
theorem Kept.through (h : Kept start past r) {ref : StoreRef} (href : ref ∈ obtained start past)
    (step : Store.Step) :
    Kept start ((.through ref step, .used (r.through ref step).1) :: past)
      (r.through ref step).2 := by
  have hfounds {other : StoreRef} {f : Founding}
      (hf : Founded start ((.through ref step, .used (r.through ref step).1) :: past) other f) :
      Founded start past other f :=
    hf.of_cons nofun
  obtain ⟨g, hg⟩ := h.known ref href
  have hin := h.bounded ref g hg
  have hsize := size_through r ref step
  refine ⟨?_, ?_, ?_, ?_, ?_, ?_⟩
  · exact (current_through r ref step).trans h.current
  · intro other hother
    obtain ⟨f, hf⟩ := h.known other hother
    exact ⟨f, .later hf⟩
  · rw [hsize]
    exact fun other f hf => h.bounded other f (hfounds hf)
  · exact fun other f f' hf hf' => h.unique other f f' (hfounds hf) (hfounds hf')
  · intro other hout
    rw [hsize] at hout
    have hne : ref ≠ other := by
      rintro rfl
      omega
    rw [own, h.unused other hout, if_neg hne, append_nil]
  · intro other f hf
    rw [store_through hin, own]
    split
    · rename_i hsame
      subst hsame
      rw [h.store ref f (hfounds hf), f.alone_concat]
    · rw [append_nil]
      exact h.store other f (hfounds hf)

/-- Every use answers what the past tells, and leaves the stores as the past then tells. -/
theorem Kept.use (h : Kept start past r) {u : Use} (hu : u.Possible start past) :
    Told start past u (r.use u).1 ∧ Kept start ((u, (r.use u).1) :: past) (r.use u).2 := by
  cases u with
  | init clone capacity =>
      cases hpresent : present start past with
      | none =>
          have hcurrent : r.current = none := h.current.trans hpresent
          simp only [Registry.use, init, hcurrent]
          exact ⟨.fresh hpresent h.next_notMem, h.fresh hpresent clone capacity⟩
      | some ref =>
          have hcurrent : r.current = some ref := h.current.trans hpresent
          simp only [Registry.use, init, hcurrent]
          refine ⟨.kept hpresent, h.quiet rfl hcurrent ?_ ?_ fun _ => rfl⟩
          · rintro _ ⟨⟩
            exact mem_obtained_of_present hpresent
          · intro hnone
            rw [hpresent] at hnone
            cases hnone
  | teardown clone =>
      have hdetached : r.teardown.1 = present start past := h.current
      simp only [Registry.use, hdetached]
      exact ⟨.detached, h.quiet rfl rfl (fun ref href => mem_obtained_of_present href) nofun
        fun _ => rfl⟩
  | get clone =>
      have hquiet (result : Except Query.Failure StoreRef)
          (hout : ∀ ref, result.toOption = some ref → ref ∈ obtained start past) :
          Kept start ((.get clone, .found result) :: past) r :=
        h.quiet rfl h.current hout nofun fun _ => rfl
      cases hpresent : present start past with
      | none =>
          have hcurrent : r.current = none := h.current.trans hpresent
          simp only [Registry.use, get, hcurrent]
          exact ⟨.unavailable hpresent, hquiet _ fun ref href => by cases href⟩
      | some ref =>
          have hcurrent : r.current = some ref := h.current.trans hpresent
          simp only [Registry.use, get, hcurrent]
          refine ⟨.found hpresent, hquiet _ ?_⟩
          rintro _ ⟨⟩
          exact mem_obtained_of_present hpresent
  | through ref step =>
      refine ⟨?_, h.through hu step⟩
      obtain ⟨f, hf⟩ := h.known ref hu
      have hanswer : (r.through ref step).1 = ((f.alone (own ref past)).perform step).1 := by
        rw [← h.store ref f hf, through_eq]
        rfl
      simp only [Registry.use, hanswer]
      exact .used hf

theorem Ran.kept (h : Ran start past r) : Kept start past r := by
  induction h with
  | start => exact kept_ofHandle start
  | next _ u hu ih => exact (ih.use hu).2

theorem Ran.told {u : Use} {a : Answer} (h : Ran start ((u, a) :: past) r) :
    Told start past u a := by
  cases h with
  | next h u hu => exact (h.kept.use hu).1

/-- What was done at first could have been all that was done. -/
theorem Ran.behind {later : Log} (h : Ran start (later ++ past) r) : ∃ r, Ran start past r := by
  induction later generalizing r with
  | nil => exact ⟨r, h⟩
  | cons event later ih =>
      cases h with
      | next h => exact ih h

/-- At every point, a use answers what the past tells. Every reference is to one store, and that
store is what it would be if it had been used by itself. -/
theorem stores_apart {log : Log} (h : Ran start log r) :
    (∀ later u a past, log = later ++ (u, a) :: past → Told start past u a) ∧
    (∀ ref ∈ obtained start log, ∃! f, Founded start log ref f) ∧
    ∀ ref f, Founded start log ref f →
      r.store ref = f.alone (own ref log) ∧
        Store.Agrees f.capacity (f.before ++ own ref log) (r.store ref) := by
  refine ⟨?_, ?_, ?_⟩
  · rintro later u a past rfl
    obtain ⟨r', hrun⟩ := h.behind
    exact hrun.told
  · intro ref href
    obtain ⟨f, hf⟩ := h.kept.known ref href
    exact ⟨f, hf, fun f' hf' => h.kept.unique ref f f' hf hf'⟩
  · intro ref f hf
    have hstore := h.kept.store ref f hf
    exact ⟨hstore, hstore ▸ f.agrees_alone (own ref log)⟩

end

/-- A store is used after its teardown, while another one is current. -/
theorem stores_apart_outlived :
    ∃ log r, Ran none log r ∧ Founded none log ⟨0⟩ ⟨2, []⟩ ∧ Founded none log ⟨1⟩ ⟨0, []⟩ ∧
      (r.store ⟨0⟩).snapshot.length = 2 ∧ (r.store ⟨1⟩).snapshot = [] := by
  have hopened : Ran none _ _ := Ran.start.next (.init 0 2) trivial
  have hused := hopened.next (.through ⟨0⟩ (.append {})) (mem_cons_self ..)
  have hleft := hused.next (.teardown 1) trivial
  have hagain := hleft.next (.init 1 0) trivial
  have hrun := hagain.next (.through ⟨0⟩ (.append {})) (by decide)
  obtain ⟨-, -, hstores⟩ := stores_apart hrun
  refine ⟨_, _, hrun, .later (.later (.later (.later (.fresh rfl)))), .later (.fresh rfl), ?_, ?_⟩
  · rw [(hstores ⟨0⟩ ⟨2, []⟩ (.later (.later (.later (.later (.fresh rfl)))))).1]
    decide
  · rw [(hstores ⟨1⟩ ⟨0, []⟩ (.later (.fresh rfl))).1]
    decide

end TrafficCapture.Registry
