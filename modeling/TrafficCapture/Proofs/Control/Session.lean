import TrafficCapture.Control.Service
import TrafficCapture.Proofs.Control.Reply
import TrafficCapture.Proofs.Query.Isolation
import TrafficCapture.Proofs.Store.Lifecycle
import TrafficCapture.Query.Spec

/-! # Sessions

All that is done with a handle, one step after another: uses of it and of its stores, queries, and
control requests. Reading leaves the stores as they are, however it ends, so that no later answer
depends on what was read before. Clearing empties the current store and nothing else. -/

namespace TrafficCapture.Control.Session

open List

/-- A query of the engine: one whose pattern is still to be read, or one that is ready. -/
inductive Question where
  | read (spec : Query.Spec) (deadline : Option Int) (clock : Query.Clock)
  | ready (q : Query.Inquiry)

def Question.answer : Question → List Exchange → Except Query.Failure (List Exchange)
  | .read spec deadline clock, snapshot => spec.run deadline clock snapshot
  | .ready q, snapshot => q.answer snapshot

/-- A step of a session. What it is answered by, apart from the stores, belongs to the step. -/
inductive Step where
  | use (u : Registry.Use)
  | query (ref : StoreRef) (q : Question)
  | request (req : Request) (clock : Query.Clock) (deadline : Option Int)

/-- What a step answers. -/
inductive Answer where
  | used (answer : Registry.Answer)
  | selected (result : Except Query.Failure (List Exchange))
  | replied (reply : Reply)

def perform (r : Registry) : Step → Answer × Registry
  | .use u => (.used (r.use u).1, (r.use u).2)
  | .query ref q => (.selected (q.answer (r.store ref).snapshot), r)
  | .request req clock deadline =>
    (.replied (Setting.handle ⟨r, clock, deadline⟩ req).1,
      (Setting.handle ⟨r, clock, deadline⟩ req).2)

/-- Performs steps one after another. -/
def run (r : Registry) : List Step → List Answer × Registry
  | [] => ([], r)
  | step :: steps =>
    ((perform r step).1 :: (run (perform r step).2 steps).1, (run (perform r step).2 steps).2)

/-- What the steps of a session answer that begins with a handle. -/
def answers (start : Option Registry.Founding) (steps : List Step) : List Answer :=
  (run (.ofHandle start) steps).1

/-- The stores behind a session. -/
def stores (start : Option Registry.Founding) (steps : List Step) : Registry :=
  (run (.ofHandle start) steps).2

/-- A step that only reads: a query, or a request that does not clear, be it because it is about
something else or because it ends in a failure. -/
def Reads (r : Registry) : Step → Prop
  | .use _ => False
  | .query .. => True
  | .request req clock deadline =>
    Route.resolve req.method req.path ≠ .ok .clearEntries ∨
      (Setting.handle ⟨r, clock, deadline⟩ req).1.status ≠ 200

/-- A store was emptied of so many exchanges, and there is no other difference. -/
structure Emptied (ref : StoreRef) (count : ℕ) (r r' : Registry) : Prop where
  removed : (r.store ref).snapshot.length = count
  empty : (r'.store ref).snapshot = []
  last : (r'.store ref).lastSequence? = (r.store ref).lastSequence?
  next : ∀ e, (r'.append ref e).1 = (r.append ref e).1
  others : ∀ other, other ≠ ref → r'.store other = r.store other
  current : r'.current = r.current

/-! ## What a request does -/

/-- What clearing so many exchanges is answered with. -/
def clearedReply (count : ℕ) : Reply := .ofJson (.object [("cleared", Json.nat count)])

/-- Every number that fits into a word is told. -/
theorem tells_clearedReply {count : ℕ} (h : count < UInt64.size) :
    (clearedReply count).Tells (.object [("cleared", Json.nat count)]) := by
  have hreadable : Json.Readable 1 (.object [("cleared", Json.nat count)]) :=
    .object (by simp) (forall_mem_singleton.mpr (Json.readable_nat h))
  exact (Reply.tells_iff hreadable (by decide)).mpr rfl

theorem exists_of_bind {ε α β : Type} {x : Except ε α} {f : α → Except ε β} {b : β}
    (h : x >>= f = .ok b) : ∃ a, x = .ok a ∧ f a = .ok b := by
  cases x with
  | error e => cases h
  | ok a => exact ⟨a, rfl, h⟩

section

variable {s : Setting} {p : Parameters} {reply : Reply} {r' : Registry}

/-- Looking changes nothing, whatever is found. -/
theorem registry_of_answer {route : Route} (hroute : route ≠ .clearEntries)
    (h : s.answer p route = .ok (reply, r')) : r' = s.registry := by
  cases route with
  | allEntries =>
      obtain ⟨port, -, h⟩ := exists_of_bind h
      obtain ⟨source, -, h⟩ := exists_of_bind h
      obtain ⟨pattern, -, h⟩ := exists_of_bind h
      obtain ⟨entries, -, h⟩ := exists_of_bind h
      exact (congrArg Prod.snd (Except.ok.inj h)).symm
  | clearEntries => exact (hroute rfl).elim
  | ofPort port route =>
      obtain ⟨found, -, h⟩ := exists_of_bind h
      exact (congrArg Prod.snd (Except.ok.inj h)).symm

/-- Clearing needs a current store. -/
theorem of_answer_clear (h : s.answer p .clearEntries = .ok (reply, r')) :
    ∃ ref, s.registry.current = some ref ∧ reply = clearedReply (s.registry.clear ref).1 ∧
      r' = (s.registry.clear ref).2 := by
  obtain ⟨ref, href, h⟩ := exists_of_bind h
  refine ⟨ref, ?_, (congrArg Prod.fst (Except.ok.inj h)).symm,
    (congrArg Prod.snd (Except.ok.inj h)).symm⟩
  unfold Registry.get at href
  split at href
  · rename_i found hfound
    obtain rfl := Except.ok.inj href
    exact hfound
  · cases href

/-- All that a request can do: it clears the current store, or it changes nothing. -/
theorem handle_cases (s : Setting) (req : Request) :
    (∃ ref, Route.resolve req.method req.path = .ok .clearEntries ∧
      s.registry.current = some ref ∧
      s.handle req = (clearedReply (s.registry.clear ref).1, (s.registry.clear ref).2)) ∨
    (s.handle req).2 = s.registry := by
  rw [Setting.handle]
  cases hresolve : Route.resolve req.method req.path with
  | error failure => exact .inr rfl
  | ok route =>
      cases hanswer : s.answer (.ofQuery req.query) route with
      | error failure =>
          simp only [bind, Except.bind, hanswer]
          exact .inr trivial
      | ok answer =>
          simp only [bind, Except.bind, hanswer]
          by_cases hroute : route = .clearEntries
          · subst hroute
            obtain ⟨ref, hcurrent, hreply, hregistry⟩ := of_answer_clear hanswer
            exact .inl ⟨ref, rfl, hcurrent, Prod.ext hreply hregistry⟩
          · exact .inr (registry_of_answer hroute hanswer)

/-- A request to clear is answered from the current store. -/
theorem handle_clear {req : Request} {ref : StoreRef}
    (hresolve : Route.resolve req.method req.path = .ok .clearEntries)
    (hcurrent : s.registry.current = some ref) :
    s.handle req = (clearedReply (s.registry.clear ref).1, (s.registry.clear ref).2) := by
  rw [Setting.handle, hresolve]
  simp only [bind, Except.bind, Setting.answer, Registry.get, hcurrent, Except.mapError]
  rfl

end

/-! ## Steps -/

section

variable {r : Registry}

/-- Reading leaves the stores as they are. -/
theorem perform_of_reads {step : Step} (h : Reads r step) : (perform r step).2 = r := by
  cases step with
  | use u => exact h.elim
  | query ref q => rfl
  | request req clock deadline =>
      rcases handle_cases ⟨r, clock, deadline⟩ req with ⟨ref, hresolve, -, hhandle⟩ | hsame
      · rcases h with h | h
        · exact (h hresolve).elim
        · rw [hhandle] at h
          exact (h rfl).elim
      · exact hsame

/-- What is current is one of the stores. -/
def Sound (r : Registry) : Prop := ∀ ref, r.current = some ref → ref.index < r.stores.size

theorem emptied_clear {ref : StoreRef} (h : ref.index < r.stores.size) :
    Emptied ref (r.clear ref).1 r (r.clear ref).2 := by
  have hstore (other : StoreRef) : (r.clear ref).2.store other =
      if ref = other then (r.store ref).clear.2 else r.store other :=
    Registry.store_through h .clear other
  have hself : (r.clear ref).2.store ref = (r.store ref).clear.2 := by rw [hstore, if_pos rfl]
  constructor
  · rfl
  · rw [hself]
    rfl
  · rw [hself]
    rfl
  · intro e
    simp only [Registry.append, Registry.update, hself]
    rfl
  · intro other hne
    rw [hstore, if_neg (Ne.symm hne)]
  · exact Registry.current_through r ref .clear

theorem sound_through (h : Sound r) (ref : StoreRef) (step : Store.Step) :
    Sound (r.through ref step).2 := by
  intro other hother
  rw [Registry.current_through] at hother
  rw [Registry.size_through]
  exact h other hother

theorem sound_install (r : Registry) (s : Store) : Sound (r.install s).2 := by
  intro ref href
  obtain rfl : ⟨r.stores.size⟩ = ref := Option.some.inj href
  simp [Registry.install]

theorem sound_use (h : Sound r) (u : Registry.Use) : Sound (r.use u).2 := by
  cases u with
  | init clone capacity =>
      simp only [Registry.use, Registry.init]
      split
      · exact h
      · exact sound_install r _
  | teardown clone =>
      intro ref href
      cases href
  | get clone => exact h
  | through ref step => exact sound_through h ref step

theorem sound_perform (h : Sound r) (step : Step) : Sound (perform r step).2 := by
  cases step with
  | use u => exact sound_use h u
  | query ref q => exact h
  | request req clock deadline =>
      rcases handle_cases ⟨r, clock, deadline⟩ req with ⟨ref, -, -, hhandle⟩ | hsame
      · simp only [perform, hhandle]
        exact sound_through h ref .clear
      · simp only [perform, hsame]
        exact h

theorem sound_run (h : Sound r) (steps : List Step) : Sound (run r steps).2 := by
  induction steps generalizing r with
  | nil => exact h
  | cons step steps ih => exact ih (sound_perform h step)

theorem sound_ofHandle (start : Option Registry.Founding) : Sound (Registry.ofHandle start) := by
  cases start with
  | none =>
      intro ref href
      cases href
  | some f => exact sound_install _ _

end

/-! ## Runs -/

theorem run_append (r : Registry) (steps more : List Step) : run r (steps ++ more) =
    ((run r steps).1 ++ (run (run r steps).2 more).1, (run (run r steps).2 more).2) := by
  induction steps generalizing r with
  | nil => rfl
  | cons step steps ih =>
      rw [cons_append, run, ih]
      rfl

theorem length_run (r : Registry) (steps : List Step) :
    (run r steps).1.length = steps.length := by
  induction steps generalizing r with
  | nil => rfl
  | cons step steps ih => exact congrArg (· + 1) (ih (perform r step).2)

/-- Reading leaves no trace in a session: whatever is done before and behind it, all other answers
are those that are given if it is left out. Clearing, if there is a current store, empties that
store, tells how many exchanges it held, as long as a word holds their number, and goes on with the
numbers where they were. -/
theorem reads_leave_no_trace (start : Option Registry.Founding) (before after : List Step)
    (step : Step) :
    (Reads (stores start before) step →
      (answers start (before ++ step :: after)).eraseIdx before.length =
        answers start (before ++ after)) ∧
    (∀ req clock deadline ref, step = .request req clock deadline →
      Route.resolve req.method req.path = .ok .clearEntries →
      (stores start before).current = some ref →
      ∃ count, (perform (stores start before) step).1 = .replied (clearedReply count) ∧
        (count < UInt64.size →
          (clearedReply count).Tells (.object [("cleared", Json.nat count)])) ∧
        Emptied ref count (stores start before) (perform (stores start before) step).2) := by
  constructor
  · intro hreads
    have hlength : (answers start before).length = before.length := length_run _ before
    have hwith : answers start (before ++ step :: after) = answers start before ++
        (perform (stores start before) step).1 ::
          (run (perform (stores start before) step).2 after).1 := by
      rw [answers, run_append]
      rfl
    have hwithout : answers start (before ++ after) =
        answers start before ++ (run (stores start before) after).1 := by
      rw [answers, run_append]
      rfl
    rw [hwith, hwithout, perform_of_reads hreads, eraseIdx_append_of_length_le hlength.le, hlength,
      Nat.sub_self, eraseIdx_cons_zero]
  · rintro req clock deadline ref rfl hresolve hcurrent
    have hsound : Sound (stores start before) := sound_run (sound_ofHandle start) before
    have hperform : perform (stores start before) (.request req clock deadline) =
        (.replied (clearedReply ((stores start before).clear ref).1),
          ((stores start before).clear ref).2) := by
      have hhandle : Setting.handle ⟨stores start before, clock, deadline⟩ req = _ :=
        handle_clear hresolve hcurrent
      rw [perform, hhandle]
    rw [hperform]
    exact ⟨_, rfl, tells_clearedReply, emptied_clear (hsound ref hcurrent)⟩

/-- One more exchange for the first store. -/
def appendOne : Step := .use (.through ⟨0⟩ (.append {}))

def lookAtAll : Step := .request ⟨"GET", "/entries", some "urlPattern=.*"⟩ (.still 0) none

def clearAll : Step := .request ⟨"DELETE", "/entries", none⟩ (.still 0) none

/-- A look can be left out between two appends, and clearing does what it is for. -/
theorem look_leaves_no_trace :
    (answers (some ⟨2, []⟩) ([appendOne] ++ lookAtAll :: [appendOne])).eraseIdx 1 =
      answers (some ⟨2, []⟩) ([appendOne] ++ [appendOne]) ∧
    ∃ count, (perform (stores (some ⟨2, []⟩) [appendOne]) clearAll).1 =
        .replied (clearedReply count) ∧
      (count < UInt64.size → (clearedReply count).Tells (.object [("cleared", Json.nat count)])) ∧
      Emptied ⟨0⟩ count (stores (some ⟨2, []⟩) [appendOne])
        (perform (stores (some ⟨2, []⟩) [appendOne]) clearAll).2 := by
  constructor
  · apply (reads_leave_no_trace (some ⟨2, []⟩) [appendOne] [appendOne] lookAtAll).1
    exact .inl (by decide +kernel)
  · exact (reads_leave_no_trace (some ⟨2, []⟩) [appendOne] [] clearAll).2
      ⟨"DELETE", "/entries", none⟩ (.still 0) none ⟨0⟩ rfl (by decide +kernel) rfl

end TrafficCapture.Control.Session
