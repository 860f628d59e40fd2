import TrafficCapture.Proofs.Proxy.Body
import TrafficCapture.Proofs.Proxy.Dialogue

/-! # Bodies within a bound

A transfer tries as often as its source may bring bytes. It comes to the same with any bound that
is greater than what is upcoming, so that it need not look ahead and is a dialogue. -/

namespace TrafficCapture.Proxy

open Net List

namespace Move

variable {α β : Type} {m : Move α} {t : Transfer}

/-- Only how a sequence goes on from where its first step is done makes a difference. -/
theorem Ends.bind_eq {done : α → Transfer → Prop} {stopped : Stop → Transfer → Prop}
    {f g : α → Move β} (h : m.Ends t done stopped) (heq : ∀ a t', done a t' → f a t' = g a t') :
    (m >>= f) t = (m >>= g) t := by
  show EStateM.bind m f t = EStateM.bind m g t
  unfold EStateM.bind
  cases hm : m t with
  | ok a t' => exact heq a t' (h.of_ok hm)
  | error s t' => rfl

theorem trailers_eq {lines lines' : ℕ} (t : Transfer) (h : t.upcoming.bytes.length < lines)
    (h' : t.upcoming.bytes.length < lines') : trailers lines t = trailers lines' t := by
  induction lines generalizing lines' t with
  | zero => cases h
  | succ lines ih =>
      obtain ⟨lines', rfl⟩ := Nat.exists_eq_succ_of_ne_zero (Nat.ne_zero_of_lt h')
      refine (moveLine_spec t).bind_eq fun l t₁ h₁ => ?_
      have hlt := h₁.1.length_lt h₁.2
      split
      · rfl
      · exact ih t₁ (by omega) (by omega)

theorem chunks_eq (limit : Option ℕ) {count count' : ℕ} (total : ℕ) (t : Transfer)
    (h : t.upcoming.bytes.length < count) (h' : t.upcoming.bytes.length < count') :
    chunks limit count total t = chunks limit count' total t := by
  induction count generalizing count' total t with
  | zero => cases h
  | succ count ih =>
      obtain ⟨count', rfl⟩ := Nat.exists_eq_succ_of_ne_zero (Nat.ne_zero_of_lt h')
      refine (moveLine_spec t).bind_eq fun l t₁ h₁ => ?_
      have hlt := h₁.1.length_lt h₁.2
      rcases chunkSize l with fault | _ | size
      · rfl
      · have htrailers : trailers (count + 1) t₁ = trailers (count' + 1) t₁ :=
          trailers_eq t₁ (by omega) (by omega)
        simp only [Bind.bind, EStateM.bind, htrailers]
      · refine (within_spec limit _ t₁).bind_eq fun _ t₂ h₂ => ?_
        obtain ⟨rfl, -⟩ := h₂
        refine (chunkData_spec _ t₂).bind_eq fun _ t₃ h₃ => ?_
        obtain ⟨moved, -, ha⟩ := h₃
        have hle := congrArg length ha.upcoming_bytes
        rw [length_append] at hle
        exact ih _ t₃ (by omega) (by omega)

theorem untilEnd_eq {reads reads' : ℕ} (total : ℕ) (t : Transfer) (hheld : t.held = [])
    (h : t.upcoming.bytes.length < reads) (h' : t.upcoming.bytes.length < reads') :
    untilEnd reads total t = untilEnd reads' total t := by
  induction reads generalizing reads' total t with
  | zero => cases h
  | succ reads ih =>
      obtain ⟨reads', rfl⟩ := Nat.exists_eq_succ_of_ne_zero (Nat.ne_zero_of_lt h')
      refine (next_spec (by decide) t).bind_eq fun reading t₁ h₁ => ?_
      obtain ⟨⟨he, hheld₁⟩, htells⟩ := h₁
      cases reading with
      | bytes bytes =>
          obtain ⟨hne, -, hd⟩ := htells
          have hpos := length_pos_iff.mpr hne
          have ha := congrArg length (advance_of_read he hheld₁ hheld hd).upcoming_bytes
          rw [length_append] at ha
          refine (pass_spec bytes t₁).bind_eq fun _ t₂ h₂ => ?_
          have hsame := congrArg length h₂.1.upcoming_bytes
          rw [length_append, length_nil] at hsame
          exact ih _ t₂ (h₂.2.trans (hheld₁.trans hheld)) (by omega) (by omega)
      | ended => rfl
      | failed reason => rfl
      | never => rfl

/-- Moves a body with so many tries for what comes behind one another. -/
def bodyWithin (tries : ℕ) (limit : Option ℕ) : Framing → Move ℕ
  | .empty => return 0
  | .fixed n => do
    data .bodyCut (fun _ => .bodyUnread) n
    return n
  | .chunked => chunks limit tries 0
  | .untilClose => do
    let t ← get
    let moved ← passHeld t.held.length
    untilEnd tries moved

theorem bodyWithin_eq (limit : Option ℕ) (framing : Framing) {tries : ℕ} (t : Transfer)
    (h : t.upcoming.bytes.length < tries) : bodyWithin tries limit framing t =
      body limit framing t := by
  cases framing with
  | empty => rfl
  | fixed n => rfl
  | chunked => exact chunks_eq limit 0 t h (Nat.lt_succ_of_le (upcoming_length_le t))
  | untilClose =>
      have hheld : t.held.take t.held.length = t.held := take_length
      have hspec : (passHeld t.held.length).Ends t _ (Lacks (fun _ _ => True) _ t) :=
        passHeld_spec t.held.length t _ le_rfl
      refine hspec.bind_eq fun moved t₁ h₁ => ?_
      obtain ⟨-, hempty, ha⟩ := h₁
      have hup := ha.upcoming_bytes
      rw [hheld] at hup
      have hrest : t₁.upcoming.bytes = (delivery t.source.script).bytes :=
        (append_cancel_left hup).symm
      have hle := congrArg length hup
      rw [length_append] at hle
      refine untilEnd_eq _ t₁ (hempty.trans drop_length) (by omega) ?_
      rw [hrest]
      exact Nat.lt_succ_of_le (delivery_length_le _)

/-- Sends a head, and a body with so many tries. -/
def sendWithin (tries : ℕ) (head : Bytes) (limit : Option ℕ) (framing : Framing) : Move ℕ := do
  put head
  bodyWithin tries limit framing

theorem sendWithin_eq (head : Bytes) (limit : Option ℕ) (framing : Framing) {tries : ℕ}
    (t : Transfer) (h : t.upcoming.bytes.length < tries) :
    sendWithin tries head limit framing t = (put head >>= fun _ => body limit framing) t := by
  refine (put_spec head t).bind_eq fun _ t₁ h₁ => bodyWithin_eq limit framing t₁ ?_
  rwa [h₁.1.upcoming_bytes] at h

end Move

namespace Spoken

variable {side : Side}

def bodyWithin (tries : ℕ) (limit : Option ℕ) :
    (framing : Framing) → Spoken side (Move.bodyWithin tries limit framing)
  | .empty => pure 0
  | .fixed n => bind (data _ _ n) fun _ => pure n
  | .chunked => chunks limit tries 0
  | .untilClose =>
    look (fun s => Move.passHeld s.held.length >>= Move.untilEnd tries)
      (fun s => bind (passHeld s.held.length) (untilEnd tries)) fun _ => rfl

def sendWithin (tries : ℕ) (head : Bytes) (limit : Option ℕ) (framing : Framing) :
    Spoken side (Move.sendWithin tries head limit framing) :=
  bind (put head) fun _ => bodyWithin tries limit framing

end Spoken

end TrafficCapture.Proxy
