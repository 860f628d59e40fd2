import TrafficCapture.Net.Peer
import Mathlib.Data.Nat.Notation

/-! # What a script delivers

Reads cut a script into pieces of their own choice. What they bring together, and how it ends,
depends on the script alone. -/

namespace TrafficCapture.Net

open List

/-- How a script stops delivering bytes. -/
inductive Ending where
  | ended
  | failed (reason : String)
  | silent
  deriving DecidableEq, Repr

/-- All bytes that are delivered up to the ending, however they are cut. -/
structure Delivery where
  bytes : Bytes
  ending : Ending
  deriving DecidableEq, Repr

/-- The delivery with some bytes in front of it. -/
def Delivery.behind (front : Bytes) (d : Delivery) : Delivery := ⟨front ++ d.bytes, d.ending⟩

@[simp] theorem Delivery.behind_bytes (front : Bytes) (d : Delivery) :
    (d.behind front).bytes = front ++ d.bytes := rfl

@[simp] theorem Delivery.behind_ending (front : Bytes) (d : Delivery) :
    (d.behind front).ending = d.ending := rfl

@[simp] theorem Delivery.behind_nil (d : Delivery) : d.behind [] = d := rfl

@[simp] theorem Delivery.behind_behind (front more : Bytes) (d : Delivery) :
    (d.behind more).behind front = d.behind (front ++ more) := by
  simp [behind]

theorem Delivery.behind_injective (front : Bytes) : Function.Injective (behind front) := by
  rintro ⟨a, x⟩ ⟨b, y⟩ h
  simpa [behind] using h

/-- What a script delivers before its stream ends, fails or falls silent. -/
def delivery : List Event → Delivery
  | [] => ⟨[], .ended⟩
  | .arrival bytes :: rest => (delivery rest).behind bytes
  | .delay _ :: rest => delivery rest
  | .failure reason :: _ => ⟨[], .failed reason⟩
  | .silence :: _ => ⟨[], .silent⟩

/-- How long a script waits in all. -/
def waits : List Event → ℕ
  | [] => 0
  | .arrival _ :: rest => waits rest
  | .delay ms :: rest => ms + waits rest
  | .failure _ :: rest => waits rest
  | .silence :: rest => waits rest

/-- The script ends its waits before the watch ends. -/
def Outlasts (clock : Clock) (script : List Event) : Prop :=
  clock.now + waits script ≤ clock.horizon

instance (clock : Clock) (script : List Event) : Decidable (Outlasts clock script) :=
  inferInstanceAs (Decidable (clock.now + waits script ≤ clock.horizon))

@[simp] theorem Clock.after_now (c : Clock) (ms : ℕ) : (c.after ms).now = c.now + ms := by
  unfold after
  split
  · rename_i h
    simp [beq_iff_eq.mp h]
  · rfl

@[simp] theorem Clock.after_horizon (c : Clock) (ms : ℕ) : (c.after ms).horizon = c.horizon := by
  unfold after
  split <;> rfl

/-- What a reading tells of the delivery that it was taken from and of the one that is left. -/
def Reading.Tells (size : ℕ) (before after : Delivery) (outlasted : Prop) : Reading → Prop
  | .bytes brought => brought ≠ [] ∧ brought.length ≤ size ∧ before = after.behind brought
  | .ended => before = ⟨[], .ended⟩ ∧ after = ⟨[], .ended⟩
  | .failed reason => before = ⟨[], .failed reason⟩
  | .never => outlasted → before = ⟨[], .silent⟩

/-- The time that is gone and the waits that are left. -/
structure SameTime (before after : Clock) (script rest : List Event) : Prop where
  horizon : after.horizon = before.horizon
  waits : after.now + waits rest = before.now + waits script
  later : before.now ≤ after.now

theorem SameTime.refl (clock : Clock) (script : List Event) : SameTime clock clock script script :=
  ⟨rfl, rfl, Nat.le_refl _⟩

theorem SameTime.trans {c₁ c₂ c₃ : Clock} {s₁ s₂ s₃ : List Event} (h : SameTime c₁ c₂ s₁ s₂)
    (h' : SameTime c₂ c₃ s₂ s₃) : SameTime c₁ c₃ s₁ s₃ :=
  ⟨h'.horizon.trans h.horizon, h'.waits.trans h.waits, Nat.le_trans h.later h'.later⟩

theorem SameTime.outlasts {c₁ c₂ : Clock} {s₁ s₂ : List Event} (h : SameTime c₁ c₂ s₁ s₂)
    (ho : Outlasts c₁ s₁) : Outlasts c₂ s₂ := by
  unfold Outlasts
  rw [h.waits, h.horizon]
  exact ho

/-- Without waits no time goes by, now or later. -/
theorem SameTime.still {before after : Clock} {script rest : List Event}
    (h : SameTime before after script rest) (hw : Net.waits script = 0) :
    Net.waits rest = 0 ∧ after.now = before.now := by
  have hwaits := h.waits
  have hlater := h.later
  omega

theorem read_spec {size : ℕ} (hs : 0 < size) (script : List Event) (clock : Clock) :
    (read size script clock).1.Tells size (delivery script)
      (delivery (read size script clock).2.1) (Outlasts clock script) ∧
      SameTime clock (read size script clock).2.2 script (read size script clock).2.1 := by
  induction script generalizing clock with
  | nil => exact ⟨⟨rfl, rfl⟩, .refl _ _⟩
  | cons event script ih =>
      cases event with
      | arrival bytes =>
          simp only [read]
          split
          · rename_i he
            obtain ⟨htells, htime⟩ := ih clock
            refine ⟨?_, htime.horizon, htime.waits, htime.later⟩
            simpa [delivery, waits, isEmpty_iff.mp he, Outlasts] using htells
          · rename_i he
            have hne : bytes ≠ [] := fun h => he (isEmpty_iff.mpr h)
            have hfront : bytes.take size ≠ [] := by
              simpa [take_eq_nil_iff, hne] using Nat.ne_of_gt hs
            refine ⟨⟨hfront, length_take_le size bytes, ?_⟩, rfl, ?_, Nat.le_refl _⟩
            · split
              · rename_i hd
                have hall := take_append_drop size bytes
                rw [isEmpty_iff.mp hd, append_nil] at hall
                simp [delivery, hall]
              · simp [delivery]
            · split <;> rfl
      | delay ms =>
          simp only [read]
          split
          · obtain ⟨htells, htime⟩ := ih (clock.after ms)
            have hpast : SameTime clock (clock.after ms) (.delay ms :: script) script :=
              ⟨by simp, by simp [waits]; omega, by simp⟩
            refine ⟨?_, hpast.trans htime⟩
            have hout :
                Outlasts clock (.delay ms :: script) = Outlasts (clock.after ms) script := by
              simp [Outlasts, waits, Nat.add_assoc]
            rw [hout]
            exact htells
          · rename_i ha
            refine ⟨fun ho => ?_, .refl _ _⟩
            have hlate : ¬ clock.now + ms ≤ clock.horizon := by simpa [Clock.allows] using ha
            exact absurd ho (by simp [Outlasts, waits]; omega)
      | failure reason => exact ⟨rfl, rfl, rfl, Nat.le_refl _⟩
      | silence => exact ⟨fun _ => rfl, .refl _ _⟩

/-- No more is delivered than arrives. -/
theorem delivery_length_le (script : List Event) :
    (delivery script).bytes.length ≤ arriving script := by
  induction script with
  | nil => simp [delivery, arriving]
  | cons event script ih =>
      cases event with
      | arrival bytes => simpa [delivery, arriving] using ih
      | delay ms => simpa [delivery, arriving] using ih
      | failure reason => simp [delivery]
      | silence => simp [delivery]

/-- All that arrives is delivered where the stream ends. -/
theorem arriving_eq {script : List Event} (h : (delivery script).ending = .ended) :
    arriving script = (delivery script).bytes.length := by
  induction script with
  | nil => rfl
  | cons event script ih =>
      cases event with
      | arrival bytes => simpa [delivery, arriving] using ih h
      | delay ms => simpa [delivery, arriving] using ih h
      | failure reason => cases h
      | silence => cases h

/-- A read that brings no bytes takes none. -/
theorem content_of_read_none {size : ℕ} {script rest : List Event} {clock later : Clock}
    {reading : Reading} (h : read size script clock = (reading, rest, later))
    (hnone : ∀ bytes, reading ≠ .bytes bytes) : content script = content rest := by
  induction script generalizing clock with
  | nil =>
      cases h
      rfl
  | cons event script ih =>
      cases event with
      | arrival arrived =>
          simp only [read] at h
          split at h
          · rename_i hempty
            simpa [content, isEmpty_iff.mp hempty] using ih h
          · cases h
            exact (hnone _ rfl).elim
      | delay ms =>
          simp only [read] at h
          split at h
          · simpa [content] using ih h
          · cases h
            rfl
      | failure reason | silence =>
          cases h
          rfl

namespace Peer

/-- The peer takes so many bytes more. -/
def Accepts (p : Peer) (n : ℕ) : Prop := ∀ room, p.room = some room → n ≤ room

theorem Accepts.mono {p : Peer} {m n : ℕ} (h : p.Accepts n) (hm : m ≤ n) : p.Accepts m :=
  fun room hr => Nat.le_trans hm (h room hr)

theorem write_fst (p : Peer) (bytes : Bytes) :
    (p.write bytes).1 = true ↔ p.Accepts bytes.length := by
  unfold write Accepts
  split
  · rename_i hr
    simp [hr]
  · rename_i room hr
    simp [hr]

@[simp] theorem received_close (p : Peer) : p.close.received = p.received := rfl

/-- A peer was read from while time passed, and nothing else happened to it. -/
structure Heard (peer peer' : Peer) (clock clock' : Clock) : Prop where
  same : peer' = { peer with script := peer'.script, reads := peer'.reads }
  time : SameTime clock clock' peer.script peer'.script

theorem Heard.refl (peer : Peer) (clock : Clock) : peer.Heard peer clock clock :=
  ⟨rfl, .refl _ _⟩

theorem Heard.trans {p₁ p₂ p₃ : Peer} {c₁ c₂ c₃ : Clock} (h : p₁.Heard p₂ c₁ c₂)
    (h' : p₂.Heard p₃ c₂ c₃) : p₁.Heard p₃ c₁ c₃ :=
  ⟨by rw [h'.same, h.same], h.time.trans h'.time⟩

theorem heard_read {size : ℕ} (hs : 0 < size) (peer : Peer) (clock : Clock) :
    peer.Heard (peer.read size clock).2.1 clock (peer.read size clock).2.2 :=
  ⟨rfl, (read_spec hs peer.script clock).2⟩

/-- What a read tells, whatever it comes to. -/
theorem tells_read {size : ℕ} (hs : 0 < size) {peer peer' : Peer} {clock clock' : Clock}
    {reading : Reading} (h : peer.read size clock = (reading, peer', clock')) :
    reading.Tells size (delivery peer.script) (delivery peer'.script)
        (Outlasts clock peer.script) ∧
      SameTime clock clock' peer.script peer'.script := by
  have hspec := read_spec hs peer.script clock
  have hreading : (peer.read size clock).1 = reading := by rw [h]
  have hpeer : (peer.read size clock).2.1 = peer' := by rw [h]
  have hclock : (peer.read size clock).2.2 = clock' := by rw [h]
  subst hreading hpeer hclock
  exact hspec

theorem Heard.received_eq {peer peer' : Peer} {clock clock' : Clock}
    (h : peer.Heard peer' clock clock') : peer'.received = peer.received := by
  rw [h.same]
  rfl

end Peer

end TrafficCapture.Net
