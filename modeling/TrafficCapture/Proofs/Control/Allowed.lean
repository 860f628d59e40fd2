import TrafficCapture.Control.Incoming
import TrafficCapture.Proofs.Control.Routing
import TrafficCapture.Proofs.Control.ValidationOrder

/-! # Allowed methods

A reply to a refused method lists the methods that may be tried instead. The list is the same for
every path, and so it names a method too many wherever there is nothing to be cleared. -/

namespace TrafficCapture.Control

open List

/-- A reply lists a method among the allowed ones. -/
def Reply.Lists (reply : Reply) (method : String) : Prop :=
  ∃ value, reply.headers.value? "Allow" = some value ∧ method ∈ Incoming.members value

/-- A method is refused at a path. -/
def Refuses (path method : String) : Prop :=
  Route.resolve method path = .error (.methodNotAllowed method path)

instance (path method : String) : Decidable (Refuses path method) :=
  inferInstanceAs (Decidable (_ = _))

theorem refuses_iff {path method : String} {place : Place} (h : Leads (segments path) place) :
    Refuses path method ↔ method ∉ place.methods := by
  rw [Refuses, resolve_eq_iff]
  constructor
  · rintro ⟨⟩
    rename_i h' hmethod
    rwa [h.unique h']
  · exact .refused h

theorem exists_place_of_refuses {path method : String} (h : Refuses path method) :
    ∃ place, Leads (segments path) place := by
  rw [Refuses, resolve_eq_iff] at h
  cases h with
  | refused h => exact ⟨_, h⟩

/-- Every reply to a refused method has the same list. -/
theorem lists_methodNotAllowed {path method other : String} :
    (Failure.methodNotAllowed method path).reply.Lists other ↔
      other = "GET" ∨ other = "DELETE" := by
  have hlist : ", ".intercalate Failure.allowedMethods = "GET, DELETE" := by decide +kernel
  have hheaders : (Failure.methodNotAllowed method path).reply.headers =
      [("content-type", "application/json"), ("allow", "GET, DELETE")] := by
    simp [Failure.reply, Failure.status, Failure.retryable, hlist]
  have hvalue : Http.Headers.value?
      [("content-type", "application/json"), ("allow", "GET, DELETE")] "Allow" =
      some "GET, DELETE" := by decide +kernel
  have hmembers : Incoming.members "GET, DELETE" = ["GET", "DELETE"] := by decide +kernel
  simp [Reply.Lists, hheaders, hvalue, hmembers]

theorem stage_of_status {f : Failure} (h : f.status = 405) : f.stage = .method := by
  rw [f.status_eq_stage] at h
  cases hstage : f.stage <;> simp [hstage, Stage.status] at h ⊢

/-- A request that is answered with the status of refused methods is one with a refused method. -/
theorem refused_of_status {s : Setting} {r : Request} (h : (s.handle r).1.status = 405) :
    (s.handle r).1 = (Failure.methodNotAllowed r.method r.path).reply ∧
      Refuses r.path r.method := by
  rw [handle_eq] at h ⊢
  cases hdispatch : s.dispatch r with
  | ok answer =>
      rw [hdispatch] at h
      have hok : answer.1.status = 200 := dispatch_ensures s r answer hdispatch
      simp [hok] at h
  | error f =>
      rw [hdispatch] at h
      have hstage : f.stage = .method := stage_of_status h
      have hregular : ¬ r.Misordered := by
        intro hmisordered
        obtain ⟨f', hf', hstage'⟩ := dispatch_of_misordered s r hmisordered
        obtain rfl := Except.error.inj (hdispatch.symm.trans hf')
        simp [hstage] at hstage'
      have horder := dispatch_inOrder s r hregular
      rw [hdispatch] at horder
      obtain ⟨wish, hwish, hmethod⟩ : Faulty s r .method := hstage ▸ horder.1
      have hresolved := resolved r
      rw [hwish] at hresolved
      generalize hroute : Route.resolve r.method r.path = x at hresolved
      cases hresolved with
      | refused =>
          refine ⟨?_, hroute⟩
          rw [Setting.dispatch, hroute] at hdispatch
          obtain rfl := Except.error.inj hdispatch
          rfl
      | clear h => exact absurd h hmethod
      | all h => exact absurd h hmethod
      | ofPort _ _ h => exact absurd h hmethod

/-- A reply to a refused method lists looking and clearing. This is the truth about every method at
the path of all exchanges, and elsewhere about every method except clearing: that is listed, too,
although it is refused. -/
theorem allow_truthful_iff (s : Setting) (r : Request) (h : (s.handle r).1.status = 405)
    (method : String) :
    ((s.handle r).1.Lists method ↔ method = "GET" ∨ method = "DELETE") ∧
      (((s.handle r).1.Lists method ↔ ¬ Refuses r.path method) ↔
        (method = "DELETE" → PathText ["entries"] r.path.toList)) := by
  obtain ⟨hreply, hrefuses⟩ := refused_of_status h
  obtain ⟨place, hplace⟩ := exists_place_of_refuses hrefuses
  rw [hreply, lists_methodNotAllowed, refuses_iff hplace, not_not, pathText_iff,
    ← leads_entries_iff]
  refine ⟨Iff.rfl, ?_⟩
  cases place with
  | entries => simp [Place.methods, hplace]
  | ofPort port route =>
      have hnone : ¬ Leads (segments r.path) .entries := fun h => by cases hplace.unique h
      by_cases hdelete : method = "DELETE"
      · simp [Place.methods, hnone, hdelete]
      · simp [Place.methods, hdelete]

/-- A request whose method is refused, to a path with nothing to be cleared. -/
def postedArchive : Request where
  method := "POST"
  path := "/proxy/8081/har"
  query := none

/-- A request whose method is refused, to the path of all exchanges. -/
def postedEntries : Request where
  method := "POST"
  path := "/entries"
  query := none

theorem allow_truthful_iff_posted :
    ((Setting.handle ⟨.new, .still 0, none⟩ postedArchive).1.Lists "DELETE" ∧
      Refuses postedArchive.path "DELETE") ∧
    ∀ method, (Setting.handle ⟨.new, .still 0, none⟩ postedEntries).1.Lists method ↔
      ¬ Refuses postedEntries.path method := by
  have harchive : (Setting.handle ⟨.new, .still 0, none⟩ postedArchive).1.status = 405 := by
    decide +kernel
  have hentries : (Setting.handle ⟨.new, .still 0, none⟩ postedEntries).1.status = 405 := by
    decide +kernel
  obtain ⟨hlists, htruthful⟩ := allow_truthful_iff _ _ harchive "DELETE"
  refine ⟨⟨hlists.mpr (.inr rfl), by decide +kernel⟩, fun method => ?_⟩
  exact (allow_truthful_iff _ _ hentries method).2.mpr fun _ => pathText_iff.mpr (by decide +kernel)

end TrafficCapture.Control
