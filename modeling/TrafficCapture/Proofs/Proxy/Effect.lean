import TrafficCapture.Proofs.Net.Delivery
import TrafficCapture.Proxy.Transfer

/-! # Effects of a transfer

A state of a transfer counts only through what is still upcoming, so that an effect can be stated
without regard to how the source cuts its bytes. Effects compose, and so do statements about the
two ways in which a step may end. -/

namespace TrafficCapture.Proxy

open Net List

/-- All that is still to come: what is held back, then what the source delivers. -/
def Transfer.upcoming (t : Transfer) : Delivery := (delivery t.source.script).behind t.held

/-- The source ends its waits before the watch ends. -/
def Transfer.Watched (t : Transfer) : Prop := Outlasts t.clock t.source.script

/-- Between two states, some bytes were written to the sink, some data was kept, and nothing else
happened to the peers but that the source was read from. -/
structure Effect (written data : Bytes) (t t' : Transfer) : Prop where
  received : t'.sink.received = t.sink.received ++ written
  room : t'.sink.room = t.sink.room.map (· - written.length)
  captured : t'.captured.bytes = t.captured.bytes ++ data.take t.captured.room
  space : t'.captured.room = t.captured.room - data.length
  source : t'.source = { t.source with script := t'.source.script, reads := t'.source.reads }
  sink : t'.sink = { t.sink with writes := t'.sink.writes, room := t'.sink.room }
  time : SameTime t.clock t'.clock t.source.script t'.source.script

/-- An effect of a transfer that goes on, and the bytes that were taken from what was upcoming. -/
structure Advance (taken written data : Bytes) (t t' : Transfer) : Prop
    extends Effect written data t t' where
  upcoming : t.upcoming = t'.upcoming.behind taken

section

variable {taken written data taken' written' data' : Bytes} {t t' t'' : Transfer}

protected theorem Effect.refl (t : Transfer) : Effect [] [] t t where
  received := by simp
  room := by simp
  captured := by simp
  space := rfl
  source := rfl
  sink := rfl
  time := .refl _ _

protected theorem Effect.trans (h : Effect written data t t') (h' : Effect written' data' t' t'') :
    Effect (written ++ written') (data ++ data') t t'' where
  received := by rw [h'.received, h.received, append_assoc]
  room := by simp [h'.room, h.room, Function.comp_def, Nat.sub_sub]
  captured := by rw [h'.captured, h.captured, h.space, append_assoc, take_append]
  space := by rw [h'.space, h.space, length_append, Nat.sub_sub]
  source := by rw [h'.source, h.source]
  sink := by rw [h'.sink, h.sink]
  time := h.time.trans h'.time

theorem Effect.watched (h : Effect written data t t') (hw : t.Watched) : t'.Watched :=
  h.time.outlasts hw

theorem Effect.accepts (h : Effect written data t t') {n : ℕ}
    (ha : t.sink.Accepts (written.length + n)) : t'.sink.Accepts n := by
  intro room hr
  rw [h.room, Option.map_eq_some_iff] at hr
  obtain ⟨before, hb, rfl⟩ := hr
  have := ha before hb
  omega

protected theorem Advance.refl (t : Transfer) : Advance [] [] [] t t := ⟨.refl t, rfl⟩

protected theorem Advance.trans (h : Advance taken written data t t')
    (h' : Advance taken' written' data' t' t'') :
    Advance (taken ++ taken') (written ++ written') (data ++ data') t t'' :=
  ⟨h.toEffect.trans h'.toEffect, by rw [h.upcoming, h'.upcoming, Delivery.behind_behind]⟩

theorem Advance.ending_eq (h : Advance taken written data t t') :
    t'.upcoming.ending = t.upcoming.ending := by
  rw [h.upcoming, Delivery.behind_ending]

theorem Advance.upcoming_bytes (h : Advance taken written data t t') :
    t.upcoming.bytes = taken ++ t'.upcoming.bytes := by
  rw [h.upcoming, Delivery.behind_bytes]

end

/-! ## The two ends of a step -/

/-- A step ends as described: `done` by its result, or `stopped` before that. -/
def Move.Ends {α : Type} (m : Move α) (t : Transfer) (done : α → Transfer → Prop)
    (stopped : Stop → Transfer → Prop) : Prop :=
  match m t with
  | .ok a t' => done a t'
  | .error s t' => stopped s t'

namespace Move

variable {α β : Type} {m : Move α} {t : Transfer} {done done' : α → Transfer → Prop}
  {stopped stopped' : Stop → Transfer → Prop}

theorem Ends.mono (h : m.Ends t done stopped) (hd : ∀ a t', done a t' → done' a t')
    (hs : ∀ s t', stopped s t' → stopped' s t') : m.Ends t done' stopped' := by
  unfold Ends at *
  split
  · exact hd _ _ (by simpa [*] using h)
  · exact hs _ _ (by simpa [*] using h)

/-- A sequence stops where its first step stops, or goes on from where that step is done. -/
theorem Ends.bind {f : α → Move β} {finished : β → Transfer → Prop} (h : m.Ends t done stopped)
    (hd : ∀ a t', done a t' → (f a).Ends t' finished stopped')
    (hs : ∀ s t', stopped s t' → stopped' s t') : (m >>= f).Ends t finished stopped' := by
  unfold Ends at h ⊢
  cases hm : m t with
  | ok a t' =>
      have := hd a t' (by simpa [hm] using h)
      simpa [Ends, Bind.bind, EStateM.bind, hm] using this
  | error s t' =>
      have := hs s t' (by simpa [hm] using h)
      simpa [Bind.bind, EStateM.bind, hm] using this

theorem Ends.of_ok {a : α} {t' : Transfer} (h : m.Ends t done stopped) (hm : m t = .ok a t') :
    done a t' := by
  simpa [Ends, hm] using h

theorem Ends.of_error {s : Stop} {t' : Transfer} (h : m.Ends t done stopped)
    (hm : m t = .error s t') : stopped s t' := by
  simpa [Ends, hm] using h

theorem Ends.pure {a : α} (h : done a t) : (Pure.pure a : Move α).Ends t done stopped := h

theorem Ends.fail {fault : Fault} (h : stopped (.failed fault) t) :
    (fail fault : Move α).Ends t done stopped := h

theorem Ends.wait (h : stopped .waiting t) : (throw .waiting : Move α).Ends t done stopped := h

theorem Ends.get {f : Transfer → Move α} (h : (f t).Ends t done stopped) :
    (MonadState.get >>= f).Ends t done stopped := h

theorem Ends.set {f : PUnit → Move α} {t' : Transfer} (h : (f ⟨⟩).Ends t' done stopped) :
    (MonadStateOf.set t' >>= f).Ends t done stopped := h

/-- What stops a transfer whose source has come to an end. -/
def stopAt (onEnd : Fault) (onFailure : String → Fault) : Ending → Stop
  | .ended => .failed onEnd
  | .failed reason => .failed (onFailure reason)
  | .silent => .waiting

theorem stopAt_eq_waiting {onEnd : Fault} {onFailure : String → Fault} {ending : Ending} :
    stopAt onEnd onFailure ending = .waiting ↔ ending = .silent := by
  cases ending <;> simp [stopAt]

/-- A transfer stopped after it had written only what was upcoming, in order. What was written and
what was kept of it are related as described, unless the sink did not take it. It waits in vain only
for a source that falls silent. -/
structure Halted (D : Bytes → Bytes → Prop) (t : Transfer) (s : Stop) (t' : Transfer) : Prop where
  effect : ∃ part kept, Effect part kept t t' ∧ part <+: t.upcoming.bytes ∧
    (t.sink.Accepts t.upcoming.bytes.length → D part kept)
  silent : s = .waiting → t.Watched → t.upcoming.ending = .silent

section

variable {D D' : Bytes → Bytes → Prop} {s : Stop} {t' t'' : Transfer}

theorem Halted.of_effect (h : Effect [] [] t t') (hd : D [] [])
    (hs : s = .waiting → t.Watched → t.upcoming.ending = .silent) : Halted D t s t' :=
  ⟨⟨[], [], h, nil_prefix, fun _ => hd⟩, hs⟩

theorem Halted.mono (h : Halted D' t s t') (hd : ∀ part kept, D' part kept → D part kept) :
    Halted D t s t' := by
  obtain ⟨part, kept, he, hp, hk⟩ := h.effect
  exact ⟨⟨part, kept, he, hp, fun ha => hd part kept (hk ha)⟩, h.silent⟩

theorem Halted.after {taken data : Bytes} (h : Advance taken taken data t t')
    (hs : Halted D' t' s t'')
    (hd : ∀ part kept, D' part kept → D (taken ++ part) (data ++ kept)) : Halted D t s t'' := by
  obtain ⟨part, kept, he, hp, hk⟩ := hs.effect
  refine ⟨⟨_, _, h.toEffect.trans he, ?_, fun ha => hd part kept (hk ?_)⟩, fun hw hwatch => ?_⟩
  · rw [h.upcoming_bytes]
    exact prefix_append_right_inj taken |>.mpr hp
  · rw [h.upcoming_bytes, length_append] at ha
    exact h.accepts ha
  · rw [← h.ending_eq]
    exact hs.silent hw (h.watched hwatch)

/-- A transfer halted, which it does not do where a stretch of the kind `W` is upcoming, the watch
is long enough, and the sink takes it. -/
structure Lacks (D : Bytes → Bytes → Prop) (W : Bytes → Prop) (t : Transfer) (s : Stop)
    (t' : Transfer) : Prop where
  halted : Halted D t s t'
  missing : t.Watched → ∀ w rest, W w → t.upcoming.bytes = w ++ rest → ¬ t.sink.Accepts w.length

variable {V W : Bytes → Prop}

/-- Who lacks the front of a stretch lacks the stretch. -/
theorem Lacks.of_front (h : Lacks D' V t s t')
    (hd : ∀ part kept, D' part kept → D part kept)
    (hV : ∀ w rest, W w → t.upcoming.bytes = w ++ rest → ∃ v more, w = v ++ more ∧ V v) :
    Lacks D W t s t' := by
  refine ⟨h.halted.mono hd, fun hwatch w rest hw hup hacc => ?_⟩
  obtain ⟨v, more, rfl, hv⟩ := hV w rest hw hup
  refine h.missing hwatch v (more ++ rest) hv (by simpa using hup) (hacc.mono ?_)
  simp

/-- Who lacks what follows a front that was moved lacks the stretch. -/
theorem Lacks.after {front data : Bytes} (ha : Advance front front data t t')
    (h : Lacks D' V t' s t'')
    (hd : ∀ part kept, D' part kept → D (front ++ part) (data ++ kept))
    (hV : ∀ w rest, W w → t.upcoming.bytes = w ++ rest → ∃ v, w = front ++ v ∧ V v) :
    Lacks D W t s t'' := by
  refine ⟨h.halted.after ha hd, fun hwatch w rest hw hup hacc => ?_⟩
  obtain ⟨v, rfl, hv⟩ := hV w rest hw hup
  rw [ha.upcoming_bytes, append_assoc, append_cancel_left_eq] at hup
  refine h.missing (ha.watched hwatch) v rest hv hup (ha.accepts ?_)
  simpa using hacc

end

end Move

end TrafficCapture.Proxy
