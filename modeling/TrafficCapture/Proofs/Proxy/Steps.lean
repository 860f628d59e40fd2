import TrafficCapture.Proofs.Bytes.FirstMark
import TrafficCapture.Proofs.Proxy.Effect

/-! # The steps of a transfer

Each step is described once, by its effect where it is done and by what was missing where it is
not. Fuel never runs out: every read brings a byte. -/

namespace TrafficCapture.Proxy.Move

open Net List

variable {t : Transfer}

/-! ## Writing -/

/-- What a write leaves behind that the sink did not take. -/
structure Refused (bytes : Bytes) (t : Transfer) (s : Stop) (t' : Transfer) : Prop where
  stop : s = .failed .writeFailed
  not_accepted : ¬ t.sink.Accepts bytes.length
  effect : ∃ part, part <+: bytes ∧ Effect part [] t t'

theorem put_spec (bytes : Bytes) (t : Transfer) :
    (put bytes).Ends t (fun _ t' => Advance [] bytes [] t t' ∧ t'.held = t.held)
      (Refused bytes t) := by
  unfold Ends put
  cases hr : t.sink.room with
  | none =>
      simp only [Peer.write, hr]
      refine ⟨⟨⟨?_, by simp [hr], by simp, rfl, rfl, rfl, .refl _ _⟩, rfl⟩, trivial⟩
      simp [Peer.received]
  | some room =>
      simp only [Peer.write, hr]
      by_cases hfit : bytes.length ≤ room
      · simp only [hfit, decide_true]
        refine ⟨⟨⟨?_, by simp [hr], by simp, rfl, rfl, rfl, .refl _ _⟩, rfl⟩, trivial⟩
        simp [Peer.received, take_of_length_le hfit]
      · simp only [hfit, decide_false]
        refine ⟨rfl, fun ha => hfit (ha room hr), bytes.take room, take_prefix _ _, ?_⟩
        refine ⟨by simp [Peer.received], ?_, by simp, rfl, rfl, rfl, .refl _ _⟩
        simp only [hr, Option.map_some, length_take]
        congr 1
        omega

theorem keep_spec (bytes : Bytes) (t : Transfer) :
    (keep bytes).Ends t (fun _ t' => Advance [] [] bytes t t' ∧ t'.held = t.held)
      (fun _ _ => False) := by
  refine ⟨⟨⟨by simp, by simp, ?_, ?_, rfl, rfl, .refl _ _⟩, rfl⟩, rfl⟩
  · exact Capture.bytes_push _ _
  · exact Capture.room_push _ _

theorem pass_spec (bytes : Bytes) (t : Transfer) :
    (pass bytes).Ends t (fun _ t' => Advance [] bytes bytes t t' ∧ t'.held = t.held)
      (Refused bytes t) := by
  refine (put_spec bytes t).bind (fun _ t₁ h₁ => ?_) fun _ _ h => h
  refine (keep_spec bytes t₁).mono (fun _ t₂ h₂ => ?_) fun _ _ h => h.elim
  refine ⟨?_, h₂.2.trans h₁.2⟩
  simpa using h₁.1.trans h₂.1

/-- A write that fails leaves a part of what was taken written. -/
theorem Refused.lacks {D : Bytes → Bytes → Prop} {W : Bytes → Prop} {bytes : Bytes}
    {t' t'' : Transfer} {s : Stop} (hs : Refused bytes t' s t'') (h : Advance bytes [] [] t t')
    (hW : ∀ w rest, W w → t.upcoming.bytes = w ++ rest → bytes.length ≤ w.length) :
    Lacks D W t s t'' := by
  have hrefused {n : ℕ} (hacc : t.sink.Accepts n) : ¬ bytes.length ≤ n := fun hle =>
    hs.not_accepted (h.toEffect.accepts (by simpa using hacc.mono hle))
  obtain ⟨part, hp, he⟩ := hs.effect
  have hall := h.upcoming_bytes
  refine ⟨⟨⟨part, [], ?_, hp.trans ⟨_, hall.symm⟩, fun hacc => ?_⟩, fun hw => ?_⟩, ?_⟩
  · simpa using h.toEffect.trans he
  · rw [hall, length_append] at hacc
    exact (hrefused hacc (Nat.le_add_right _ _)).elim
  · rw [hs.stop] at hw
    cases hw
  · exact fun _ w rest hw hup hacc => hrefused hacc (hW w rest hw hup)

/-! ## Reading -/

/-- A read either brings bytes from the front of what the source delivers or finds its end.
Nothing but the source and the time changes. -/
theorem next_spec {size : ℕ} (hs : 0 < size) (t : Transfer) :
    (next size).Ends t
      (fun reading t' => (Effect [] [] t t' ∧ t'.held = t.held) ∧
        reading.Tells size (delivery t.source.script) (delivery t'.source.script) t.Watched)
      (fun _ _ => False) := by
  obtain ⟨htells, htime⟩ := read_spec hs t.source.script t.clock
  exact ⟨⟨⟨by simp [Peer.received], by simp, by simp, rfl, rfl, rfl, htime⟩, rfl⟩, htells⟩

/-- The source has come to its end, and nothing is upcoming but what is held back. -/
structure Dry (onEnd : Fault) (onFailure : String → Fault) (t : Transfer) (s : Stop)
    (t' : Transfer) : Prop where
  effect : Effect [] [] t t'
  stop : ∃ ending, s = stopAt onEnd onFailure ending
  upcoming : t.Watched → t.upcoming.bytes = t.held ∧
    s = stopAt onEnd onFailure t.upcoming.ending

theorem Dry.silent {onEnd : Fault} {onFailure : String → Fault} {s : Stop} {t' : Transfer}
    (h : Dry onEnd onFailure t s t') (hs : s = .waiting) (hw : t.Watched) :
    t.upcoming.ending = .silent :=
  stopAt_eq_waiting.mp ((h.upcoming hw).2 ▸ hs)

theorem Dry.halted {onEnd : Fault} {onFailure : String → Fault} {s : Stop} {t' : Transfer}
    {D : Bytes → Bytes → Prop} (h : Dry onEnd onFailure t s t') (hd : D [] []) : Halted D t s t' :=
  .of_effect h.effect hd h.silent

theorem demand_spec (onEnd : Fault) (onFailure : String → Fault) {size : ℕ} (hs : 0 < size)
    (t : Transfer) :
    (demand onEnd onFailure size).Ends t
      (fun bytes t' => Effect [] [] t t' ∧ t'.held = t.held ∧ bytes ≠ [] ∧ bytes.length ≤ size ∧
        delivery t.source.script = (delivery t'.source.script).behind bytes)
      (Dry onEnd onFailure t) := by
  refine (next_spec hs t).bind (fun reading t₁ h₁ => ?_) fun _ _ h => h.elim
  obtain ⟨⟨he, hheld⟩, htells⟩ := h₁
  cases reading with
  | bytes bytes => exact .pure ⟨he, hheld, htells⟩
  | ended =>
      refine .fail ⟨he, ⟨.ended, rfl⟩, fun _ => ?_⟩
      simp [Transfer.upcoming, htells.1, stopAt]
  | failed reason =>
      refine .fail ⟨he, ⟨.failed reason, rfl⟩, fun _ => ?_⟩
      simp [Transfer.upcoming, show delivery t.source.script = _ from htells, stopAt]
  | never =>
      refine .wait ⟨he, ⟨.silent, rfl⟩, fun hw => ?_⟩
      simp [Transfer.upcoming, show delivery t.source.script = _ from htells hw, stopAt]

/-- What was read is held back and therefore still upcoming. -/
theorem fill_spec (t : Transfer) :
    fill.Ends t (fun _ t' => Advance [] [] [] t t' ∧ t.held.length < t'.held.length)
      (Dry .chunksCut .readFailed t) := by
  refine (demand_spec _ _ (by decide) t).bind (fun bytes t₁ h₁ => ?_) fun _ _ h => h
  obtain ⟨he, hheld, hne, -, hd⟩ := h₁
  have hpos := length_pos_iff.mpr hne
  refine ⟨⟨he.trans ⟨by simp, by simp, by simp, rfl, rfl, rfl, .refl _ _⟩, ?_⟩, ?_⟩
  · simp [Transfer.upcoming, hd, hheld]
  · simp only [hheld, length_append]
    omega

/-! ## Lines and pairs -/

/-- Neither was anything written nor kept. -/
structure Nothing (part kept : Bytes) : Prop where
  part_eq : part = []
  kept_eq : kept = []

theorem crlf_ne_nil : Bytes.crlf ≠ [] := by decide

/-- No line was found: it is too long, or all that is upcoming was searched in vain. -/
structure NoLine (t : Transfer) (s : Stop) (t' : Transfer) : Prop where
  effect : Effect [] [] t t'
  silent : s = .waiting → t.Watched → t.upcoming.ending = .silent
  tooLong : s = .failed .lineTooLong → ∀ l rest, t.upcoming.bytes = l ++ rest →
    Bytes.EndsAtFirst Bytes.crlf l → lineLimit < l.length
  searched : s ≠ .failed .lineTooLong → t.Watched →
    t.upcoming.bytes.length ≤ lineLimit ∧ Bytes.cutAfter? Bytes.crlf t.upcoming.bytes = none

section

variable {s : Stop} {t' t'' : Transfer}

theorem NoLine.halted (h : NoLine t s t') : Halted Nothing t s t' :=
  .of_effect h.effect ⟨rfl, rfl⟩ h.silent

theorem NoLine.of_advance (h : Advance [] [] [] t t') (hn : NoLine t' s t'') : NoLine t s t'' where
  effect := h.toEffect.trans hn.effect
  silent := fun hs hw => h.ending_eq ▸ hn.silent hs (h.watched hw)
  tooLong := fun hs l rest hl => hn.tooLong hs l rest (by simpa [h.upcoming_bytes] using hl)
  searched := fun hs hw => by simpa [h.upcoming_bytes] using hn.searched hs (h.watched hw)

/-- No line that is short enough is upcoming. -/
theorem NoLine.long (h : NoLine t s t') (hw : t.Watched) (l rest : Bytes)
    (hup : t.upcoming.bytes = l ++ rest) (hl : Bytes.EndsAtFirst Bytes.crlf l) :
    lineLimit < l.length := by
  by_cases hs : s = .failed .lineTooLong
  · exact h.tooLong hs l rest hup hl
  · have hnone := (h.searched hs hw).2
    exact ((Bytes.cutAfter?_eq_none_iff crlf_ne_nil).mp hnone l rest hup hl).elim

end

theorem heldLine?_spec (t : Transfer) :
    heldLine?.Ends t
      (fun found t' =>
        (∃ l, found = some l ∧ Bytes.EndsAtFirst Bytes.crlf l ∧ Advance l [] [] t t') ∨
        (found = none ∧ t' = t ∧ Bytes.cutAfter? Bytes.crlf t.held = none ∧
          t.held.length ≤ lineLimit))
      (NoLine t) := by
  refine .get ?_
  split
  · rename_i l held hcut
    obtain ⟨hheld, hl⟩ := (Bytes.cutAfter?_eq_some_iff crlf_ne_nil).mp hcut
    refine .set (.pure (Or.inl ⟨l, rfl, hl, ⟨?_, ?_⟩⟩))
    · exact ⟨by simp, by simp, by simp, rfl, rfl, rfl, .refl _ _⟩
    · simp [Transfer.upcoming, hheld]
  · rename_i hcut
    split
    · rename_i hlong
      refine .fail ⟨.refl t, nofun, fun _ l rest hup hl => ?_, fun hs => (hs rfl).elim⟩
      exact Nat.lt_trans hlong (hl.length_lt crlf_ne_nil hcut hup)
    · rename_i hshort
      exact .pure (Or.inr ⟨rfl, rfl, hcut, Nat.le_of_not_lt hshort⟩)

/-- Each try that is not the last adds a byte, so that the tries do not run out before what is held
back is longer than a line may be. -/
theorem lineWithin_spec (tries : ℕ) (t : Transfer) (hpos : 0 < tries)
    (htries : lineLimit + 2 ≤ tries + t.held.length) :
    (lineWithin tries).Ends t
      (fun l t' => Advance l [] [] t t' ∧ Bytes.EndsAtFirst Bytes.crlf l) (NoLine t) := by
  induction tries generalizing t with
  | zero => cases hpos
  | succ tries ih =>
      refine (heldLine?_spec t).bind (fun found t₁ h₁ => ?_) fun _ _ h => h
      rcases h₁ with ⟨l, rfl, hl, ha⟩ | ⟨rfl, rfl, hcut, hshort⟩
      · exact .pure ⟨ha, hl⟩
      · refine (fill_spec t₁).bind (fun _ t₂ h₂ => ?_) fun s t₂ hdry => ?_
        · refine (ih t₂ (by omega) (by omega)).mono (fun l t₃ h₃ => ?_) fun s t₃ h₃ => ?_
          · exact ⟨by simpa using h₂.1.trans h₃.1, h₃.2⟩
          · exact .of_advance h₂.1 h₃
        · refine ⟨hdry.effect, hdry.silent, fun hs => ?_, fun _ hw => ?_⟩
          · obtain ⟨ending, hstop⟩ := hdry.stop
            rw [hs] at hstop
            cases ending <;> cases hstop
          · -- all that is upcoming is held back, where there is no line
            rw [(hdry.upcoming hw).1]
            exact ⟨hshort, hcut⟩

theorem line_spec (t : Transfer) :
    line.Ends t (fun l t' => Advance l [] [] t t' ∧ Bytes.EndsAtFirst Bytes.crlf l) (NoLine t) :=
  lineWithin_spec _ t (by decide) (Nat.le_add_right _ _)

/-- Only a line that is too long, or none at all, is not moved. -/
theorem moveLine_spec (t : Transfer) :
    moveLine.Ends t (fun l t' => Advance l l [] t t' ∧ Bytes.EndsAtFirst Bytes.crlf l)
      (Lacks Nothing (fun l => Bytes.EndsAtFirst Bytes.crlf l ∧ l.length ≤ lineLimit) t) := by
  refine (line_spec t).bind (fun l t₁ h₁ => ?_) fun s t₁ h₁ => ?_
  · refine (put_spec l t₁).bind (fun _ t₂ h₂ => ?_) fun s t₂ h₂ => ?_
    · exact .pure ⟨by simpa using h₁.1.trans h₂.1, h₁.2⟩
    · refine h₂.lacks h₁.1 fun w rest hw hup => ?_
      rw [h₁.1.upcoming_bytes] at hup
      rw [(h₁.2.unique hw.1 crlf_ne_nil hup).1]
  · refine ⟨h₁.halted, fun hwatch l rest hl hup _ => ?_⟩
    have := h₁.long hwatch l rest hup hl.1
    exact absurd hl.2 (Nat.not_le.mpr this)

theorem pairWithin_spec (tries : ℕ) (t : Transfer) (hpos : 0 < tries)
    (htries : 3 ≤ tries + t.held.length) :
    (pairWithin tries).Ends t (fun p t' => Advance p [] [] t t' ∧ p.length = 2)
      (Lacks Nothing (fun w => w.length = 2) t) := by
  induction tries generalizing t with
  | zero => cases hpos
  | succ tries ih =>
      -- what happens where fewer than two bytes are held back
      have hmore (hshort : t.held.length < 2) : (fill >>= fun _ => pairWithin tries).Ends t
          (fun p t' => Advance p [] [] t t' ∧ p.length = 2)
          (Lacks Nothing (fun w => w.length = 2) t) := by
        refine (fill_spec t).bind (fun _ t₁ h₁ => ?_) fun s t₁ hdry => ?_
        · refine (ih t₁ (by omega) (by omega)).mono (fun p t₂ h₂ => ?_) fun s t₂ h₂ => ?_
          · exact ⟨by simpa using h₁.1.trans h₂.1, h₂.2⟩
          · exact .after h₁.1 h₂ (fun _ _ h => h) fun w _ hw _ => ⟨w, rfl, hw⟩
        · refine ⟨hdry.halted ⟨rfl, rfl⟩, fun hw w rest hlen hup _ => ?_⟩
          have hheld := congrArg length (hup.symm.trans (hdry.upcoming hw).1)
          rw [length_append] at hheld
          omega
      refine .get ?_
      split
      · rename_i a b held hheld
        refine .set (.pure ⟨⟨⟨by simp, by simp, by simp, rfl, rfl, rfl, .refl _ _⟩, ?_⟩, rfl⟩)
        simp [Transfer.upcoming, hheld]
      · rename_i hnone
        apply hmore
        match hheld : t.held with
        | [] => simp
        | [a] => simp
        | a :: b :: held => exact (hnone a b held hheld).elim

theorem chunkEnd_spec (t : Transfer) :
    chunkEnd.Ends t (fun _ t' => Advance Bytes.crlf Bytes.crlf [] t t')
      (Lacks Nothing (fun w => w = Bytes.crlf) t) := by
  refine (pairWithin_spec 3 t (by decide) (Nat.le_add_right _ _)).bind (fun p t₁ h₁ => ?_)
    fun s t₁ h₁ => h₁.of_front (fun _ _ h => h) fun w _ hw _ =>
      ⟨w, [], by simp, by simp [hw, Bytes.crlf]⟩
  split
  · rename_i hp
    obtain rfl := beq_iff_eq.mp hp
    refine (put_spec _ t₁).mono (fun _ t₂ h₂ => ?_) fun s t₂ h₂ => ?_
    · simpa using h₁.1.trans h₂.1
    · exact h₂.lacks h₁.1 fun w _ hw _ => hw ▸ Nat.le_refl _
  · rename_i hp
    refine .fail ⟨.of_effect h₁.1.toEffect ⟨rfl, rfl⟩ fun h => (by cases h), ?_⟩
    rintro - w rest rfl hup -
    rw [h₁.1.upcoming_bytes] at hup
    exact hp (beq_iff_eq.mpr (append_inj_left hup h₁.2))

/-! ## Data -/

/-- So many bytes at most were written, and all of them were kept. -/
structure AllKept (n : ℕ) (part kept : Bytes) : Prop where
  length_le : part.length ≤ n
  kept_eq : kept = part

theorem AllKept.nil (n : ℕ) : AllKept n [] [] := ⟨Nat.zero_le _, rfl⟩

theorem AllKept.append {n : ℕ} {front part kept : Bytes} (hle : front.length ≤ n)
    (h : AllKept (n - front.length) part kept) : AllKept n (front ++ part) (front ++ kept) where
  length_le := by
    have := h.length_le
    rw [length_append]
    omega
  kept_eq := by rw [h.kept_eq]

/-- Bytes that were taken from the front and passed on. -/
theorem pass_taken {D : Bytes → Bytes → Prop} {front : Bytes} {t t' : Transfer}
    (h : Advance front [] [] t t') (n : ℕ) (hn : front.length ≤ n) :
    (pass front).Ends t'
      (fun _ t'' => Advance front front front t t'' ∧ t''.held = t'.held)
      (Lacks D (fun w => w.length = n) t) := by
  refine (pass_spec front t').mono (fun _ t'' h' => ?_) fun s t'' h' => ?_
  · exact ⟨by simpa using h.trans h'.1, h'.2⟩
  · exact h'.lacks h fun w _ hw _ => hw ▸ hn

/-- So many bytes begin with any front of them. -/
theorem exists_append_of_length {n : ℕ} {front : Bytes} {t' : Transfer}
    (ha : Advance front front front t t') (hle : front.length ≤ n) (w rest : Bytes)
    (hw : w.length = n) (hup : t.upcoming.bytes = w ++ rest) :
    ∃ v, w = front ++ v ∧ v.length = n - front.length := by
  rw [ha.upcoming_bytes] at hup
  obtain ⟨v, hv⟩ := prefix_of_prefix_length_le ( prefix_append front _) (hup ▸ prefix_append w rest)
    (hle.trans hw.ge)
  refine ⟨v, hv.symm, ?_⟩
  have := congrArg length hv
  rw [length_append] at this
  omega

theorem advance_of_read {bytes : Bytes} {t' : Transfer} (he : Effect [] [] t t')
    (hheld : t'.held = t.held) (hempty : t.held = [])
    (hd : delivery t.source.script = (delivery t'.source.script).behind bytes) :
    Advance bytes [] [] t t' :=
  ⟨he, by simp [Transfer.upcoming, hheld, hempty, hd]⟩

theorem stream_spec (onEnd : Fault) (onFailure : String → Fault) (reads n : ℕ) (t : Transfer)
    (hreads : n ≤ reads) (hheld : n = 0 ∨ t.held = []) :
    (stream onEnd onFailure reads n).Ends t
      (fun _ t' => ∃ moved, moved.length = n ∧ Advance moved moved moved t t')
      (Lacks (AllKept n) (fun w => w.length = n) t) := by
  induction reads generalizing n t with
  | zero =>
      obtain rfl := Nat.le_zero.mp hreads
      exact .pure ⟨[], rfl, .refl t⟩
  | succ reads ih =>
      cases n with
      | zero => exact .pure ⟨[], rfl, .refl t⟩
      | succ n =>
          have hempty : t.held = [] := hheld.resolve_left (Nat.succ_ne_zero n)
          have hsize : 0 < min dataRead (n + 1) := Nat.lt_min.mpr ⟨by decide, n.succ_pos⟩
          refine (demand_spec onEnd onFailure hsize t).bind (fun bytes t₁ h₁ => ?_)
            fun s t₁ hdry => ?_
          · obtain ⟨he, hheld₁, hne, hle, hd⟩ := h₁
            have hpos := length_pos_iff.mpr hne
            have hle : bytes.length ≤ n + 1 := hle.trans (Nat.min_le_right _ _)
            refine (pass_taken (advance_of_read he hheld₁ hempty hd) (n + 1) hle).bind
              (fun _ t₂ h₂ => ?_) fun _ _ h => h
            have hempty₂ : t₂.held = [] := h₂.2.trans (hheld₁.trans hempty)
            refine (ih (n + 1 - bytes.length) t₂ (by omega) (Or.inr hempty₂)).mono
              (fun _ t₃ h₃ => ?_) fun s t₃ h₃ => ?_
            · obtain ⟨moved, hlen, ha⟩ := h₃
              exact ⟨bytes ++ moved, by rw [length_append]; omega, h₂.1.trans ha⟩
            · exact .after h₂.1 h₃ (fun _ _ h => .append hle h)
                (exists_append_of_length h₂.1 hle)
          · refine ⟨hdry.halted (.nil _), fun hw w rest hlen hup _ => ?_⟩
            rw [(hdry.upcoming hw).1, hempty] at hup
            rw [(append_eq_nil_iff.mp hup.symm).1] at hlen
            cases hlen

theorem takeHeld_spec (n : ℕ) (t : Transfer) :
    (takeHeld n).Ends t
      (fun front t' => Advance front [] [] t t' ∧ front = t.held.take n ∧ t'.held = t.held.drop n)
      (fun _ _ => False) := by
  unfold Ends takeHeld
  rw [splitAt_eq]
  refine ⟨⟨⟨by simp, by simp, by simp, rfl, rfl, rfl, .refl _ _⟩, ?_⟩, rfl, rfl⟩
  simp [Transfer.upcoming]

theorem passHeld_spec {D : Bytes → Bytes → Prop} (n : ℕ) (t : Transfer) (m : ℕ)
    (hm : (t.held.take n).length ≤ m) :
    (passHeld n).Ends t
      (fun moved t' => moved = (t.held.take n).length ∧ t'.held = t.held.drop n ∧
        Advance (t.held.take n) (t.held.take n) (t.held.take n) t t')
      (Lacks D (fun w => w.length = m) t) := by
  refine (takeHeld_spec n t).bind (fun front t₁ h₁ => ?_) fun _ _ h => h.elim
  obtain ⟨ha, rfl, hheld⟩ := h₁
  split
  · rename_i hempty
    have hnil := isEmpty_iff.mp hempty
    rw [hnil] at ha ⊢
    exact .pure ⟨rfl, hheld, ha⟩
  · refine (pass_taken ha m hm).bind (fun _ t₂ h₂ => ?_) fun _ _ h => h
    exact .pure ⟨rfl, h₂.2.trans hheld, h₂.1⟩

theorem data_spec (onEnd : Fault) (onFailure : String → Fault) (n : ℕ) (t : Transfer) :
    (data onEnd onFailure n).Ends t
      (fun _ t' => ∃ moved, moved.length = n ∧ Advance moved moved moved t t')
      (Lacks (AllKept n) (fun w => w.length = n) t) := by
  have hfront : (t.held.take n).length ≤ n := length_take_le n _
  refine (passHeld_spec n t n hfront).bind (fun moved t₁ h₁ => ?_) fun _ _ h => h
  obtain ⟨rfl, hheld, ha⟩ := h₁
  have hrest : n - (t.held.take n).length = 0 ∨ t₁.held = [] := by
    rw [hheld, drop_eq_nil_iff, length_take]
    omega
  refine (stream_spec onEnd onFailure n _ t₁ (Nat.sub_le _ _) hrest).mono (fun _ t₂ h₂ => ?_)
    fun s t₂ h₂ => .after ha h₂ (fun _ _ h => .append hfront h) (exists_append_of_length ha hfront)
  obtain ⟨moved, hlen, ha'⟩ := h₂
  exact ⟨_, by rw [length_append, hlen]; omega, ha.trans ha'⟩

theorem chunkData_spec (size : ℕ) (t : Transfer) :
    (chunkData size).Ends t
      (fun _ t' => ∃ moved, moved.length = size ∧
        Advance (moved ++ Bytes.crlf) (moved ++ Bytes.crlf) moved t t')
      (Lacks (AllKept size) (fun w => ∃ moved, moved.length = size ∧ w = moved ++ Bytes.crlf)
        t) := by
  refine (data_spec _ _ size t).bind (fun _ t₁ h₁ => ?_)
    fun s t₁ h₁ => h₁.of_front (fun _ _ h => h) ?_
  · obtain ⟨moved, hlen, ha⟩ := h₁
    refine (chunkEnd_spec t₁).mono (fun _ t₂ h₂ => ?_) fun s t₂ h₂ => .after ha h₂ ?_ ?_
    · exact ⟨moved, hlen, by simpa using ha.trans h₂⟩
    · rintro part kept ⟨rfl, rfl⟩
      exact ⟨by simp [hlen], rfl⟩
    · rintro w rest ⟨moved', hlen', rfl⟩ hup
      rw [ha.upcoming_bytes, append_assoc] at hup
      obtain ⟨rfl, -⟩ := append_inj hup (hlen.trans hlen'.symm)
      exact ⟨Bytes.crlf, rfl, rfl⟩
  · rintro w rest ⟨moved, hlen, rfl⟩ -
    exact ⟨moved, Bytes.crlf, rfl, hlen⟩

theorem untilEnd_spec (reads total : ℕ) (t : Transfer) (hheld : t.held = [])
    (hreads : t.upcoming.bytes.length < reads) :
    (untilEnd reads total).Ends t
      (fun n t' => n = total + t.upcoming.bytes.length ∧ t.upcoming.ending = .ended ∧
        Advance t.upcoming.bytes t.upcoming.bytes t.upcoming.bytes t t')
      (Lacks (AllKept t.upcoming.bytes.length) (fun w => t.upcoming = ⟨w, .ended⟩) t) := by
  induction reads generalizing total t with
  | zero => cases hreads
  | succ reads ih =>
      refine (next_spec (by decide) t).bind (fun reading t₁ h₁ => ?_) fun _ _ h => h.elim
      obtain ⟨⟨he, hheld₁⟩, htells⟩ := h₁
      cases reading with
      | bytes bytes =>
          obtain ⟨hne, -, hd⟩ := htells
          have hpos := length_pos_iff.mpr hne
          have ha : Advance bytes [] [] t t₁ := advance_of_read he hheld₁ hheld hd
          have hlen := congrArg length ha.upcoming_bytes
          rw [length_append] at hlen
          refine (pass_taken ha t.upcoming.bytes.length (by omega)).bind (fun _ t₂ h₂ => ?_)
            fun s t₂ h₂ => h₂.of_front (fun _ _ h => h) fun w _ hw _ =>
              ⟨w, [], by simp, by simp [hw]⟩
          have hlen₂ := congrArg length h₂.1.upcoming_bytes
          rw [length_append] at hlen₂
          refine (ih (total + bytes.length) t₂ (h₂.2.trans (hheld₁.trans hheld))
            (by omega)).mono (fun n t₃ h₃ => ?_) fun s t₃ h₃ => ?_
          · obtain ⟨rfl, hend, ha₃⟩ := h₃
            refine ⟨by omega, h₂.1.ending_eq ▸ hend, ?_⟩
            rw [h₂.1.upcoming_bytes]
            exact h₂.1.trans ha₃
          · refine .after h₂.1 h₃ (fun part kept h => .append (by omega) ?_) fun w _ hw _ => ?_
            · rwa [hlen₂, Nat.add_sub_cancel_left]
            rw [h₂.1.upcoming] at hw
            refine ⟨t₂.upcoming.bytes, (congrArg Delivery.bytes hw).symm, ?_⟩
            exact congrArg (Delivery.mk t₂.upcoming.bytes) (congrArg Delivery.ending hw)
      | ended =>
          have hup : t.upcoming = ⟨[], .ended⟩ := by
            simp [Transfer.upcoming, htells.1, hheld]
          have hup₁ : t₁.upcoming = ⟨[], .ended⟩ := by
            simp [Transfer.upcoming, htells.2, hheld₁, hheld]
          refine .pure ⟨by simp [hup], by simp [hup], ?_⟩
          rw [hup]
          exact ⟨he, hup.trans hup₁.symm⟩
      | failed reason =>
          refine .fail ⟨.of_effect he (.nil _) (fun h => by cases h), fun _ w _ hw _ => ?_⟩
          have := congrArg Delivery.ending hw
          simp [Transfer.upcoming, show delivery t.source.script = _ from htells] at this
      | never =>
          refine .wait ⟨.of_effect he (.nil _) fun _ hw => ?_, fun hwatch w _ hw _ => ?_⟩
          · simp [Transfer.upcoming, show delivery t.source.script = _ from htells hw]
          · have := congrArg Delivery.ending hw
            simp [Transfer.upcoming, show delivery t.source.script = _ from htells hwatch] at this

end TrafficCapture.Proxy.Move
