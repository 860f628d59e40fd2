import TrafficCapture.Proofs.Proxy.Body

/-! # Steady transfers

A transfer is steady if its source delivers everything without delay and then ends its stream, and
its sink takes whatever it is given. What is upcoming then decides how each step ends: with which
result, or by which fault, and what it has moved by then. -/

namespace TrafficCapture.Proxy

open Net List

/-- Nothing but the end of the stream can stop the source, and nothing can stop the sink. -/
structure Transfer.Steady (t : Transfer) : Prop where
  ended : t.upcoming.ending = .ended
  still : waits t.source.script = 0
  watched : t.clock.now ≤ t.clock.horizon
  takes : t.sink.room = none

section

variable {t t' : Transfer} {taken written data : Bytes}

theorem Transfer.Steady.outlasts (h : t.Steady) : t.Watched := by
  unfold Transfer.Watched Outlasts
  rw [h.still]
  exact h.watched

theorem Transfer.Steady.accepts (h : t.Steady) (n : ℕ) : t.sink.Accepts n := by
  intro room hr
  rw [h.takes] at hr
  cases hr

theorem Advance.steady (ha : Advance taken written data t t') (h : t.Steady) : t'.Steady where
  ended := ha.ending_eq.trans h.ended
  still := (ha.time.still h.still).1
  watched := by
    rw [(ha.time.still h.still).2, ha.time.horizon]
    exact h.watched
  takes := by rw [ha.room, h.takes, Option.map_none]

end

namespace Move

variable {t : Transfer}

theorem put_steady (bytes : Bytes) (h : t.Steady) :
    (put bytes).Ends t (fun _ s => Advance [] bytes [] t s) (fun _ _ => False) :=
  (put_spec bytes t).mono (fun _ _ ha => ha.1) fun _ _ hs => hs.not_accepted (h.accepts _)

/-! ## Lines -/

theorem heldLine?_stop (t : Transfer) :
    heldLine?.Ends t (fun found t' => found = none → t' = t ∧ t.held.length ≤ lineLimit)
      (fun s _ => s = .failed .lineTooLong ∧ lineLimit < t.held.length) := by
  refine .get ?_
  split
  · exact .set (.pure fun h => by cases h)
  · split
    · rename_i hlong
      exact .fail ⟨rfl, hlong⟩
    · rename_i hshort
      exact .pure fun _ => ⟨rfl, Nat.le_of_not_lt hshort⟩

/-- What stops the search for a line that does not come. -/
def lineStop (d : Delivery) : Stop :=
  if lineLimit < d.bytes.length then .failed .lineTooLong
  else stopAt .chunksCut .readFailed d.ending

/-- A search that fails has come upon everything, or upon more than a line may have. -/
theorem lineWithin_stop (tries : ℕ) (t : Transfer) (hpos : 0 < tries)
    (htries : lineLimit + 2 ≤ tries + t.held.length) (hw : t.Watched) :
    (lineWithin tries).Ends t (fun _ _ => True) (fun s _ => s = lineStop t.upcoming) := by
  induction tries generalizing t with
  | zero => cases hpos
  | succ tries ih =>
      refine (heldLine?_stop t).bind (fun found t₁ h₁ => ?_) fun s _ h₁ => ?_
      · cases found with
        | some l => exact .pure trivial
        | none =>
            obtain ⟨rfl, hshort⟩ := h₁ rfl
            refine (fill_spec t₁).bind (fun _ t₂ h₂ => ?_) fun s t₂ hdry => ?_
            · have hsame : t₁.upcoming = t₂.upcoming := h₂.1.upcoming
              rw [hsame]
              exact ih t₂ (by omega) (by omega) (h₂.1.watched hw)
            · obtain ⟨hheld, rfl⟩ := hdry.upcoming hw
              rw [lineStop, if_neg (by rw [hheld]; exact Nat.not_lt.mpr hshort)]
      · obtain ⟨rfl, hlong⟩ := h₁
        have hall : lineLimit < t.upcoming.bytes.length := by
          simp only [Transfer.upcoming, Delivery.behind_bytes, length_append]
          omega
        rw [lineStop, if_pos hall]

/-- A line that is short enough is found wherever its pieces are cut. -/
theorem line_found {l rest : Bytes} (h : t.Steady) (hup : t.upcoming.bytes = l ++ rest)
    (hl : IsLine l) (hshort : l.length ≤ lineLimit) :
    line.Ends t (fun found s => found = l ∧ Advance l [] [] t s) (fun _ _ => False) := by
  refine (line_spec t).mono (fun found s hfound => ?_) fun s _ hno => ?_
  · rw [hfound.1.upcoming_bytes] at hup
    obtain ⟨rfl, -⟩ := hfound.2.unique hl crlf_ne_nil hup
    exact ⟨rfl, hfound.1⟩
  · exact absurd hshort (Nat.not_le.mpr (hno.long h.outlasts l rest hup hl))

theorem line_missing (h : t.Steady) (hno : ∀ l rest, t.upcoming.bytes = l ++ rest → ¬ IsLine l) :
    line.Ends t (fun _ _ => False)
      (fun s t' => s = lineStop t.upcoming ∧ Effect [] [] t t') := by
  have hstop := lineWithin_stop (lineLimit + 2) t (by decide) (Nat.le_add_right _ _) h.outlasts
  have hspec := line_spec t
  cases hline : line t with
  | ok l s =>
      obtain ⟨ha, hl⟩ := hspec.of_ok hline
      exact (hno l _ ha.upcoming_bytes hl).elim
  | error s t' =>
      simp only [Ends, hline]
      exact ⟨hstop.of_error hline, (hspec.of_error hline).effect⟩

/-! ## Pairs -/

theorem pairWithin_stop (tries : ℕ) (t : Transfer) (hpos : 0 < tries)
    (htries : 3 ≤ tries + t.held.length) (hw : t.Watched) :
    (pairWithin tries).Ends t (fun _ _ => True)
      (fun s t' => s = stopAt .chunksCut .readFailed t.upcoming.ending ∧ Effect [] [] t t') := by
  induction tries generalizing t with
  | zero => cases hpos
  | succ tries ih =>
      -- what happens where fewer than two bytes are held back
      have hmore (hshort : t.held.length < 2) : (fill >>= fun _ => pairWithin tries).Ends t
          (fun _ _ => True) (fun s t' => s = stopAt .chunksCut .readFailed t.upcoming.ending ∧
            Effect [] [] t t') := by
        refine (fill_spec t).bind (fun _ t₁ h₁ => ?_) fun s t₁ hdry => ?_
        · refine (ih t₁ (by omega) (by omega) (h₁.1.watched hw)).mono (fun _ _ h => h)
            fun s t₂ h₂ => ?_
          rw [← h₁.1.ending_eq]
          exact ⟨h₂.1, h₁.1.toEffect.trans h₂.2⟩
        · exact ⟨(hdry.upcoming hw).2, hdry.effect⟩
      refine .get ?_
      split
      · exact .set (.pure trivial)
      · rename_i hnone
        apply hmore
        match hheld : t.held with
        | [] => simp
        | [a] => simp
        | a :: b :: held => exact (hnone a b held hheld).elim

theorem pair_found {p rest : Bytes} (h : t.Steady) (hup : t.upcoming.bytes = p ++ rest)
    (hp : p.length = 2) :
    pair.Ends t (fun found s => found = p ∧ Advance p [] [] t s) (fun _ _ => False) := by
  refine (pairWithin_spec 3 t (by decide) (Nat.le_add_right _ _)).mono (fun found s hfound => ?_)
    fun s _ hno => hno.missing h.outlasts p rest hp hup (h.accepts _)
  rw [hfound.1.upcoming_bytes] at hup
  obtain ⟨rfl, -⟩ := append_inj hup (hfound.2.trans hp.symm)
  exact ⟨rfl, hfound.1⟩

theorem pair_missing (h : t.Steady) (hno : t.upcoming.bytes.length < 2) :
    pair.Ends t (fun _ _ => False)
      (fun s t' => s = stopAt .chunksCut .readFailed t.upcoming.ending ∧ Effect [] [] t t') := by
  have hstop := pairWithin_stop 3 t (by decide) (Nat.le_add_right _ _) h.outlasts
  have hspec := pairWithin_spec 3 t (by decide) (Nat.le_add_right _ _)
  cases hpair : pair t with
  | ok p s =>
      obtain ⟨ha, hp⟩ := hspec.of_ok hpair
      rw [ha.upcoming_bytes, length_append] at hno
      omega
  | error s t' =>
      simp only [Ends, hpair]
      exact hstop.of_error hpair

/-! ## Data -/

/-- All that was upcoming was moved and kept before the source came to its end. -/
structure Drained (onEnd : Fault) (onFailure : String → Fault) (t : Transfer) (s : Stop)
    (t' : Transfer) : Prop where
  stop : s = stopAt onEnd onFailure t.upcoming.ending
  effect : Effect t.upcoming.bytes t.upcoming.bytes t t'

theorem Drained.after {onEnd : Fault} {onFailure : String → Fault} {front : Bytes} {s : Stop}
    {t₁ t₂ : Transfer} (ha : Advance front front front t t₁)
    (h : Drained onEnd onFailure t₁ s t₂) : Drained onEnd onFailure t s t₂ where
  stop := ha.ending_eq ▸ h.stop
  effect := by
    rw [ha.upcoming_bytes]
    exact ha.toEffect.trans h.effect

/-- Bytes that were taken from the front are passed on. -/
theorem pass_steady {front : Bytes} {t₁ : Transfer} (ha : Advance front [] [] t t₁)
    (h : t.Steady) :
    (pass front).Ends t₁ (fun _ s => Advance front front front t s ∧ s.held = t₁.held)
      (fun _ _ => False) := by
  refine (pass_spec front t₁).mono (fun _ s hs => ?_) fun _ _ hs =>
    hs.not_accepted ((ha.steady h).accepts _)
  exact ⟨by simpa using ha.trans hs.1, hs.2⟩

theorem stream_stop (onEnd : Fault) (onFailure : String → Fault) (reads n : ℕ) (t : Transfer)
    (hreads : n ≤ reads) (hheld : n = 0 ∨ t.held = []) (h : t.Steady) :
    (stream onEnd onFailure reads n).Ends t (fun _ _ => True) (Drained onEnd onFailure t) := by
  induction reads generalizing n t with
  | zero =>
      obtain rfl := Nat.le_zero.mp hreads
      exact .pure trivial
  | succ reads ih =>
      cases n with
      | zero => exact .pure trivial
      | succ n =>
          have hempty : t.held = [] := hheld.resolve_left (Nat.succ_ne_zero n)
          have hsize : 0 < min dataRead (n + 1) := Nat.lt_min.mpr ⟨by decide, n.succ_pos⟩
          refine (demand_spec onEnd onFailure hsize t).bind (fun bytes t₁ h₁ => ?_)
            fun s t₁ hdry => ?_
          · obtain ⟨he, hheld₁, hne, -, hd⟩ := h₁
            have hpos := length_pos_iff.mpr hne
            refine (pass_steady (advance_of_read he hheld₁ hempty hd) h).bind
              (fun _ t₂ h₂ => ?_) fun _ _ h => h.elim
            refine (ih (n + 1 - bytes.length) t₂ (by omega)
              (Or.inr (h₂.2.trans (hheld₁.trans hempty))) (h₂.1.steady h)).mono
                (fun _ _ h => h) fun s t₃ h₃ => h₃.after h₂.1
          · obtain ⟨hall, hs⟩ := hdry.upcoming h.outlasts
            refine ⟨hs, ?_⟩
            rw [hall, hempty]
            exact hdry.effect

theorem passHeld_steady (n : ℕ) (h : t.Steady) :
    (passHeld n).Ends t
      (fun moved s => moved = (t.held.take n).length ∧ s.held = t.held.drop n ∧
        Advance (t.held.take n) (t.held.take n) (t.held.take n) t s)
      (fun _ _ => False) := by
  have hfront : t.upcoming.bytes =
      t.held.take n ++ (t.held.drop n ++ (delivery t.source.script).bytes) := by
    rw [← append_assoc, take_append_drop]
    rfl
  refine (passHeld_spec (D := fun _ _ => True) n t _ (Nat.le_refl _)).mono (fun _ _ hs => hs) ?_
  intro s t' hs
  exact hs.missing h.outlasts _ _ rfl hfront (h.accepts _)

theorem data_stop (onEnd : Fault) (onFailure : String → Fault) (n : ℕ) (h : t.Steady) :
    (data onEnd onFailure n).Ends t (fun _ _ => True) (Drained onEnd onFailure t) := by
  refine (passHeld_steady n h).bind (fun moved t₁ h₁ => ?_) fun _ _ h => h.elim
  obtain ⟨rfl, hheld, ha⟩ := h₁
  have hrest : n - (t.held.take n).length = 0 ∨ t₁.held = [] := by
    rw [hheld, drop_eq_nil_iff, length_take]
    omega
  exact (stream_stop onEnd onFailure n _ t₁ (Nat.sub_le _ _) hrest (ha.steady h)).mono
    (fun _ _ h => h) fun s t₂ h₂ => h₂.after ha

theorem data_found (onEnd : Fault) (onFailure : String → Fault) {moved rest : Bytes}
    (h : t.Steady) (hup : t.upcoming.bytes = moved ++ rest) :
    (data onEnd onFailure moved.length).Ends t (fun _ s => Advance moved moved moved t s)
      (fun _ _ => False) := by
  refine (data_spec onEnd onFailure moved.length t).mono (fun _ s hs => ?_) fun s _ hno =>
    hno.missing h.outlasts moved rest rfl hup (h.accepts _)
  obtain ⟨found, hlen, ha⟩ := hs
  rw [ha.upcoming_bytes] at hup
  obtain ⟨rfl, -⟩ := append_inj hup hlen
  exact ha

theorem data_missing (onEnd : Fault) (onFailure : String → Fault) {n : ℕ} (h : t.Steady)
    (hno : t.upcoming.bytes.length < n) :
    (data onEnd onFailure n).Ends t (fun _ _ => False) (Drained onEnd onFailure t) := by
  have hstop := data_stop onEnd onFailure n h
  have hspec := data_spec onEnd onFailure n t
  cases hdata : data onEnd onFailure n t with
  | ok _ s =>
      obtain ⟨moved, hlen, ha⟩ := hspec.of_ok hdata
      rw [ha.upcoming_bytes, length_append] at hno
      omega
  | error s t' =>
      simp only [Ends, hdata]
      exact hstop.of_error hdata

/-- What a steady source delivers up to its end is all moved. -/
theorem rest_steady (h : t.Steady) :
    (passHeld t.held.length >>= untilEnd (arriving t.source.script + 1)).Ends t
      (fun n s => n = t.upcoming.bytes.length ∧
        Advance t.upcoming.bytes t.upcoming.bytes t.upcoming.bytes t s)
      (fun _ _ => False) := by
  have hall : t.upcoming = ⟨t.upcoming.bytes, .ended⟩ := by rw [← h.ended]
  refine (rest_spec t).mono (fun n s hs => ⟨hs.1, hs.2.2⟩) fun s _ hno => ?_
  exact hno.missing h.outlasts t.upcoming.bytes [] hall (by simp) (h.accepts _)

/-- A chunk count that is taken from what may be upcoming is taken from the bytes that are. -/
theorem ahead_eq (h : t.Steady) : ahead t = t.upcoming.bytes.length := by
  have hended : (delivery t.source.script).ending = .ended := h.ended
  simp only [ahead, arriving_eq hended, Transfer.upcoming, Delivery.behind_bytes, length_append]

end Move

end TrafficCapture.Proxy
