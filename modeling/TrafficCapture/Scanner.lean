/-! Cutting a list into items from left to right. -/

namespace TrafficCapture

/-- Reads one item at the front of a list. The first element of the item is given apart, so that
every item takes at least one element. -/
structure Scanner (α β : Type) where
  step : α → List α → β × List α
  shorter : ∀ a rest, (step a rest).2.length ≤ rest.length

namespace Scanner

variable {α β : Type}

/-- Cuts the list into items behind those already `done`, which are kept last first. -/
def runOnto (s : Scanner α β) (done : List β) : List α → List β
  | [] => done.reverse
  | a :: rest =>
    have : (s.step a rest).2.length ≤ rest.length := s.shorter a rest
    s.runOnto ((s.step a rest).1 :: done) (s.step a rest).2
termination_by list => list.length

/-- All items of a list, in order. -/
def run (s : Scanner α β) (list : List α) : List β := s.runOnto [] list

theorem runOnto_eq (s : Scanner α β) (done : List β) (list : List α) :
    s.runOnto done list = done.reverse ++ s.run list := by
  unfold run
  induction hn : list.length using Nat.strongRecOn generalizing done list with
  | ind n ih =>
      cases list with
      | nil => simp [runOnto]
      | cons a rest =>
          have hlt : (s.step a rest).2.length < n :=
            hn ▸ Nat.lt_succ_of_le (s.shorter a rest)
          rw [runOnto, ih _ hlt _ _ rfl, runOnto, ih _ hlt [(s.step a rest).1] _ rfl]
          simp

@[simp] theorem run_nil (s : Scanner α β) : s.run [] = [] := by simp [run, runOnto]

theorem run_cons (s : Scanner α β) (a : α) (rest : List α) :
    s.run (a :: rest) = (s.step a rest).1 :: s.run (s.step a rest).2 := by
  rw [run, runOnto, runOnto_eq]
  simp

end Scanner

end TrafficCapture
