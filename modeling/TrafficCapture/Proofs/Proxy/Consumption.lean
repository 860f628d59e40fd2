import Mathlib.Order.WellFounded
import TrafficCapture.Proofs.Proxy.Head
import TrafficCapture.Proofs.Proxy.Steps

/-! # Consumption

A read takes at least one of the bytes that are still to arrive, or it is the last one. What is
taken from what is held back does not come again either. This bounds the number of reads, and every
loop that goes round has consumed something. -/

namespace TrafficCapture

open List

namespace Net

theorem length_content (script : List Event) : (content script).length = arriving script := by
  induction script with
  | nil => rfl
  | cons event script ih =>
      cases event with
      | arrival bytes => simpa [content, arriving] using ih
      | delay | failure | silence => simpa [content, arriving] using ih

/-- What was read has arrived. -/
theorem arriving_read_bytes {size : ℕ} (hs : 0 < size) {script rest : List Event}
    {clock later : Clock} {bytes : Bytes}
    (h : read size script clock = (.bytes bytes, rest, later)) :
    arriving script = bytes.length + arriving rest := by
  have hall := congrArg length (content_of_read h hs).1
  rwa [length_append, length_content, length_content] at hall

/-- No read makes anything arrive. -/
theorem arriving_read_le {size : ℕ} (hs : 0 < size) (script : List Event) (clock : Clock) :
    arriving (read size script clock).2.1 ≤ arriving script := by
  rcases hread : read size script clock with ⟨reading, rest, later⟩
  cases reading with
  | bytes bytes =>
      rw [arriving_read_bytes hs hread]
      exact Nat.le_add_left _ _
  | ended | failed | never =>
      have hall := congrArg length (content_of_read_none hread fun _ h => by cases h)
      rw [length_content, length_content] at hall
      exact hall.ge

namespace Peer

/-- How often a peer was read from, and how many bytes are still to arrive from it. -/
def tally (p : Peer) : ℕ := p.reads + arriving p.script

theorem reads_le_tally (p : Peer) : p.reads ≤ p.tally := Nat.le_add_right _ _

theorem tally_congr {p p' : Peer} (hreads : p'.reads = p.reads) (hscript : p'.script = p.script) :
    p'.tally = p.tally := by
  rw [tally, tally, hreads, hscript]

theorem tally_read_le {size : ℕ} (hs : 0 < size) (p : Peer) (clock : Clock) :
    (p.read size clock).2.1.tally ≤ p.tally + 1 := by
  have hle := arriving_read_le hs p.script clock
  show p.reads + 1 + arriving (Net.read size p.script clock).2.1 ≤ p.reads + arriving p.script + 1
  omega

/-- A peer brought some bytes, which are no longer to arrive. -/
structure Brought (p : Peer) (bytes : Bytes) (p' : Peer) : Prop where
  ne_nil : bytes ≠ []
  arriving : arriving p.script = bytes.length + arriving p'.script
  tally : p'.tally ≤ p.tally

theorem brought_read {size : ℕ} (hs : 0 < size) {p : Peer} {clock : Clock} {bytes : Bytes}
    (h : (p.read size clock).1 = .bytes bytes) : p.Brought bytes (p.read size clock).2.1 := by
  have hread : Net.read size p.script clock =
      (.bytes bytes, (p.read size clock).2.1.script, (p.read size clock).2.2) := by
    rw [← h]
    rfl
  have hne := (content_of_read hread hs).2.1
  have hall := arriving_read_bytes hs hread
  have hpos := length_pos_iff.mpr hne
  have hreads : (p.read size clock).2.1.reads = p.reads + 1 := rfl
  refine ⟨hne, hall, ?_⟩
  rw [tally, tally, hreads]
  omega

end Peer

end Net

namespace Proxy

open Net

/-! ## Heads -/

/-- A turn of reading a head ends it, or a byte has come and the rest is left to the next turns. -/
def HeadTurn (held : Bytes) (peer : Peer) (clock : Clock) : Prop :=
  (∃ result, ∀ turns, readHeadWithin (turns + 1) held peer clock = result) ∨
    ∃ more peer' clock', peer.Brought more peer' ∧
      ∀ turns, readHeadWithin (turns + 1) held peer clock =
        readHeadWithin turns (held ++ more) peer' clock'

theorem headTurn (held : Bytes) (peer : Peer) (clock : Clock) : HeadTurn held peer clock := by
  have hsize : 0 < headRead := by decide
  rcases hread : peer.read headRead clock with ⟨reading, left, later⟩
  simp only [HeadTurn, readHeadWithin, hread]
  cases reading with
  | bytes more =>
      have hbrought := Peer.brought_read hsize (congrArg Prod.fst hread)
      rw [hread] at hbrought
      cases hcut : Bytes.cutAfter? Bytes.headEnd (held ++ more) with
      | some cut => exact .inl ⟨(.ok cut, left, later), fun _ => by simp only [hcut]⟩
      | none =>
          by_cases hlong : headLimit < (held ++ more).length
          · exact .inl ⟨(.error .tooLong, left, later), fun _ => by
              simp only [hcut, if_pos hlong]⟩
          · exact .inr ⟨more, left, later, hbrought, fun _ => by simp only [hcut, if_neg hlong]⟩
  | ended | failed | never => exact .inl ⟨_, fun _ => rfl⟩

theorem tally_readHeadWithin (reads : ℕ) (held : Bytes) (peer : Peer) (clock : Clock) :
    (readHeadWithin reads held peer clock).2.1.tally ≤ peer.tally + 1 ∧
      ∀ head, (readHeadWithin reads held peer clock).1 = .ok head →
        (readHeadWithin reads held peer clock).2.1.tally ≤ peer.tally := by
  have hsize : 0 < headRead := by decide
  induction reads generalizing held peer clock with
  | zero => exact ⟨Nat.le_succ _, fun _ h => by cases h⟩
  | succ reads ih =>
      have hle := Peer.tally_read_le hsize peer clock
      rcases hread : peer.read headRead clock with ⟨reading, left, later⟩
      rw [hread] at hle
      simp only [readHeadWithin, hread]
      cases reading with
      | bytes more =>
          have hbrought := (Peer.brought_read hsize (congrArg Prod.fst hread)).tally
          rw [hread] at hbrought
          cases hcut : Bytes.cutAfter? Bytes.headEnd (held ++ more) with
          | some cut => exact ⟨by simpa only [hcut] using hle, fun _ _ => by simpa only [hcut]⟩
          | none =>
              by_cases hlong : headLimit < (held ++ more).length
              · simp only [hcut, if_pos hlong]
                exact ⟨hle, fun _ h => by cases h⟩
              · obtain ⟨hmost, hok⟩ := ih (held ++ more) left later
                simp only [hcut, if_neg hlong]
                exact ⟨hmost.trans (Nat.add_le_add_right hbrought 1),
                  fun head h => (hok head h).trans hbrought⟩
      | ended | failed | never => exact ⟨hle, fun _ h => by cases h⟩

/-! ## Transfers -/

/-- Nothing came to a transfer that had not been ahead of it, and it paid for every read. -/
structure Spares (t t' : Transfer) : Prop where
  arriving : arriving t'.source.script ≤ arriving t.source.script
  ahead : Move.ahead t' ≤ Move.ahead t
  tally : t'.source.tally ≤ t.source.tally

/-- At least one byte was taken from what was still to arrive or from what was held back. -/
structure Consumes (t t' : Transfer) : Prop extends Spares t t' where
  less : Net.arriving t'.source.script < Net.arriving t.source.script ∨ Move.ahead t' < Move.ahead t

section

variable {t t' t'' : Transfer}

protected theorem Spares.refl (t : Transfer) : Spares t t := ⟨le_rfl, le_rfl, le_rfl⟩

protected theorem Spares.trans (h : Spares t t') (h' : Spares t' t'') : Spares t t'' :=
  ⟨h'.arriving.trans h.arriving, h'.ahead.trans h.ahead, h'.tally.trans h.tally⟩

theorem Spares.of_same (hsource : t'.source = t.source) (hheld : t'.held = t.held) :
    Spares t t' := by
  refine ⟨by rw [hsource], ?_, by rw [hsource]⟩
  rw [Move.ahead, Move.ahead, hsource, hheld]

theorem Consumes.spares (h : Consumes t t') (h' : Spares t' t'') : Consumes t t'' := by
  refine ⟨h.toSpares.trans h', ?_⟩
  have harriving := h'.arriving
  have hahead := h'.ahead
  exact h.less.imp (harriving.trans_lt ·) (hahead.trans_lt ·)

/-- Nothing can be consumed forever. -/
theorem wellFounded_consumes : WellFounded fun t' t => Consumes t t' := by
  refine Subrelation.wf (fun {t' t} h => ?_)
    (measure fun t : Transfer => Net.arriving t.source.script + Move.ahead t).wf
  have harriving := h.arriving
  have hahead := h.ahead
  have hless := h.less
  show Net.arriving t'.source.script + Move.ahead t' < Net.arriving t.source.script + Move.ahead t
  omega

/-- Bytes that were read and not held back are consumed. -/
theorem Consumes.of_brought {bytes : Bytes} (h : t.source.Brought bytes t'.source)
    (hheld : t'.held = t.held) : Consumes t t' := by
  have hpos := length_pos_iff.mpr h.ne_nil
  have hall := h.arriving
  refine ⟨⟨by omega, ?_, h.tally⟩, .inl (by omega)⟩
  rw [Move.ahead, Move.ahead, hheld]
  omega

/-- Bytes that were read and held back are consumed, too: they arrive once. -/
theorem Consumes.of_held {bytes : Bytes} (h : t.source.Brought bytes t'.source)
    (hheld : t'.held = t.held ++ bytes) : Consumes t t' := by
  have hpos := length_pos_iff.mpr h.ne_nil
  have hall := h.arriving
  refine ⟨⟨by omega, ?_, h.tally⟩, .inl (by omega)⟩
  rw [Move.ahead, Move.ahead, hheld, length_append]
  omega

end

namespace Move

variable {α β : Type} {m : Move α} {t : Transfer}

/-! ## What steps cost -/

/-- A step is done as described, or it stopped and cost no more than one read. -/
def Costs (m : Move α) (t : Transfer) (done : α → Transfer → Prop) : Prop :=
  m.Ends t done fun _ t' => t'.source.tally ≤ t.source.tally + 1

theorem Costs.mono {done done' : α → Transfer → Prop} (h : m.Costs t done)
    (hd : ∀ a t', done a t' → done' a t') : m.Costs t done' :=
  Ends.mono h hd fun _ _ h => h

theorem Costs.bind {f : α → Move β} {done : α → Transfer → Prop} {finished : β → Transfer → Prop}
    (hm : m.Costs t done) (hspares : ∀ a t', done a t' → Spares t t')
    (hf : ∀ a t', done a t' → (f a).Costs t' finished) : (m >>= f).Costs t finished :=
  Ends.bind hm (fun a t' h => Ends.mono (hf a t' h) (fun _ _ h => h) fun _ _ hle =>
    hle.trans (Nat.add_le_add_right (hspares a t' h).tally 1)) fun _ _ h => h

theorem costs_pure {a : α} {done : α → Transfer → Prop} (h : done a t) :
    (Pure.pure a : Move α).Costs t done := h

theorem costs_stop (cause : Stop) {done : α → Transfer → Prop} :
    (throw cause : Move α).Costs t done := Nat.le_succ t.source.tally

theorem next_costs {size : ℕ} (hs : 0 < size) (t : Transfer) :
    (next size).Costs t fun reading t' => t'.source.tally ≤ t.source.tally + 1 ∧
      t'.held = t.held ∧ ∀ bytes, reading = .bytes bytes → t.source.Brought bytes t'.source :=
  ⟨Peer.tally_read_le hs t.source t.clock, rfl, fun _ h => Peer.brought_read hs h⟩

theorem demand_costs (onEnd : Fault) (onFailure : String → Fault) {size : ℕ} (hs : 0 < size)
    (t : Transfer) : (demand onEnd onFailure size).Costs t fun bytes t' =>
      t'.held = t.held ∧ t.source.Brought bytes t'.source := by
  refine Ends.bind (next_costs hs t) (fun reading t₁ h₁ => ?_) fun _ _ h => h
  obtain ⟨hle, hheld, hbrought⟩ := h₁
  cases reading with
  | bytes bytes => exact .pure ⟨hheld, hbrought bytes rfl⟩
  | ended => exact .fail hle
  | failed reason => exact .fail hle
  | never => exact .wait hle

theorem put_costs (bytes : Bytes) (t : Transfer) : (put bytes).Costs t fun _ t' => Spares t t' := by
  unfold Costs Ends put
  obtain ⟨taken, sink⟩ := t.sink.write bytes
  cases taken with
  | true => exact .of_same rfl rfl
  | false => exact Nat.le_succ _

theorem pass_costs (bytes : Bytes) (t : Transfer) : (pass bytes).Costs t fun _ t' => Spares t t' :=
  (put_costs bytes t).bind (fun _ _ h => h) fun _ _ h => h.trans (.of_same rfl rfl)

theorem takeHeld_costs (n : ℕ) (t : Transfer) :
    (takeHeld n).Costs t fun _ t' => Spares t t' := by
  unfold Costs Ends takeHeld
  rw [splitAt_eq]
  refine ⟨le_rfl, ?_, le_rfl⟩
  simp only [ahead, length_drop]
  omega

theorem fill_costs (t : Transfer) : fill.Costs t fun _ t' => Consumes t t' :=
  Ends.bind (demand_costs _ _ (by decide) t)
    (fun bytes _ h => .of_held (h.2 : t.source.Brought bytes _) (by simp [h.1])) fun _ _ h => h

/-! ### Lines and pairs -/

theorem heldLine?_costs (t : Transfer) : heldLine?.Costs t fun found t' =>
    (found = none → t' = t) ∧ (found ≠ none → Consumes t t') := by
  refine .get ?_
  split
  · rename_i l held hcut
    obtain ⟨hheld, hl⟩ := (Bytes.cutAfter?_eq_some_iff crlf_ne_nil).mp hcut
    refine .set (.pure ⟨nofun, fun _ => ?_⟩)
    have hlen := congrArg length hheld
    have hpos : 2 ≤ l.length := hl.mark_length_le
    rw [length_append] at hlen
    refine ⟨⟨le_rfl, ?_, le_rfl⟩, .inr ?_⟩ <;> simp only [ahead] <;> omega
  · split
    · exact .fail (Nat.le_succ _)
    · exact .pure ⟨fun _ => rfl, fun h => (h rfl).elim⟩

theorem lineWithin_costs (tries : ℕ) (t : Transfer) :
    (lineWithin tries).Costs t fun _ t' => Consumes t t' := by
  induction tries generalizing t with
  | zero => exact costs_stop _
  | succ tries ih =>
      refine Ends.bind (heldLine?_costs t) (fun found t₁ h₁ => ?_) fun _ _ h => h
      cases found with
      | some l => exact costs_pure (h₁.2 nofun)
      | none =>
          obtain rfl := h₁.1 rfl
          refine (fill_costs t₁).bind (fun _ _ h => h.toSpares) fun _ t₂ h₂ => ?_
          exact (ih t₂).mono fun _ _ h₃ => h₂.spares h₃.toSpares

theorem pairWithin_costs (tries : ℕ) (t : Transfer) :
    (pairWithin tries).Costs t fun _ t' => Spares t t' := by
  induction tries generalizing t with
  | zero => exact costs_stop _
  | succ tries ih =>
      refine .get ?_
      split
      · rename_i a b held hheld
        refine .set (.pure ⟨le_rfl, ?_, le_rfl⟩)
        simp only [ahead, hheld, length_cons]
        omega
      · refine (fill_costs t).bind (fun _ _ h => h.toSpares) fun _ t₁ h₁ => ?_
        exact (ih t₁).mono fun _ _ h₂ => h₁.toSpares.trans h₂

theorem moveLine_costs (t : Transfer) : moveLine.Costs t fun _ t' => Consumes t t' :=
  (lineWithin_costs _ t).bind (fun _ _ h => h.toSpares) fun l t₁ h₁ =>
    (put_costs l t₁).bind (fun _ _ h => h) fun _ _ h₂ => costs_pure (h₁.spares h₂)

/-! ### Data -/

theorem stream_costs (onEnd : Fault) (onFailure : String → Fault) (reads n : ℕ) (t : Transfer) :
    (stream onEnd onFailure reads n).Costs t fun _ t' => Spares t t' := by
  induction reads generalizing n t with
  | zero =>
      cases n with
      | zero => exact costs_pure (.refl t)
      | succ n => exact costs_stop _
  | succ reads ih =>
      cases n with
      | zero => exact costs_pure (.refl t)
      | succ n =>
          have hsize : 0 < min dataRead (n + 1) := Nat.lt_min.mpr ⟨by decide, n.succ_pos⟩
          have hspares {bytes : Bytes} {t' : Transfer}
              (h : t'.held = t.held ∧ t.source.Brought bytes t'.source) : Spares t t' :=
            (Consumes.of_brought h.2 h.1).toSpares
          refine (demand_costs onEnd onFailure hsize t).bind (fun _ _ => hspares)
            fun bytes t₁ h₁ => ?_
          refine (pass_costs bytes t₁).bind (fun _ _ h => h) fun _ t₂ h₂ => ?_
          exact (ih _ t₂).mono fun _ _ h₃ => ((hspares h₁).trans h₂).trans h₃

theorem passHeld_costs (n : ℕ) (t : Transfer) :
    (passHeld n).Costs t fun _ t' => Spares t t' := by
  refine (takeHeld_costs n t).bind (fun _ _ h => h) fun front t₁ h₁ => ?_
  split
  · exact costs_pure h₁
  · exact (pass_costs front t₁).bind (fun _ _ h => h) fun _ _ h₂ => costs_pure (h₁.trans h₂)

theorem data_costs (onEnd : Fault) (onFailure : String → Fault) (n : ℕ) (t : Transfer) :
    (data onEnd onFailure n).Costs t fun _ t' => Spares t t' :=
  (passHeld_costs n t).bind (fun _ _ h => h) fun _ t₁ h₁ =>
    (stream_costs onEnd onFailure n _ t₁).mono fun _ _ h₂ => h₁.trans h₂

/-- The read that finds the end of the stream is the last one. -/
theorem untilEnd_costs (reads total : ℕ) (t : Transfer) :
    (untilEnd reads total).Costs t fun _ t' => t'.source.tally ≤ t.source.tally + 1 := by
  induction reads generalizing total t with
  | zero => exact costs_stop _
  | succ reads ih =>
      refine Ends.bind (next_costs (by decide) t) (fun reading t₁ h₁ => ?_) fun _ _ h => h
      obtain ⟨hle, hheld, hbrought⟩ := h₁
      cases reading with
      | bytes bytes =>
          have hless : t₁.source.tally + 1 ≤ t.source.tally + 1 :=
            Nat.add_le_add_right (hbrought bytes rfl).tally 1
          have hrest : (pass bytes >>= fun _ => untilEnd reads (total + bytes.length)).Costs t₁
              fun _ t' => t'.source.tally ≤ t₁.source.tally + 1 := by
            refine (pass_costs bytes t₁).bind (fun _ _ h => h) fun _ t₂ h₂ => ?_
            exact (ih _ t₂).mono fun _ _ h₃ => h₃.trans (Nat.add_le_add_right h₂.tally 1)
          exact Ends.mono hrest (fun _ _ h => h.trans hless) fun _ _ h => h.trans hless
      | ended => exact .pure hle
      | failed reason => exact .fail hle
      | never => exact .wait hle

/-! ### Chunks and bodies -/

theorem trailers_costs (lines : ℕ) (t : Transfer) :
    (trailers lines).Costs t fun _ t' => Spares t t' := by
  induction lines generalizing t with
  | zero => exact costs_stop _
  | succ lines ih =>
      refine (moveLine_costs t).bind (fun _ _ h => h.toSpares) fun l t₁ h₁ => ?_
      split
      · exact costs_pure h₁.toSpares
      · exact (ih t₁).mono fun _ _ h₂ => h₁.toSpares.trans h₂

theorem within_costs (limit : Option ℕ) (total : ℕ) (t : Transfer) :
    (within limit total).Costs t fun _ t' => Spares t t' := by
  unfold within
  split
  · exact costs_pure (.refl t)
  · split
    · exact costs_stop _
    · exact costs_pure (.refl t)

theorem chunkData_costs (size : ℕ) (t : Transfer) :
    (chunkData size).Costs t fun _ t' => Spares t t' := by
  refine (data_costs _ _ size t).bind (fun _ _ h => h) fun _ t₁ h₁ => ?_
  refine (pairWithin_costs 3 t₁).bind (fun _ _ h => h) fun p t₂ h₂ => ?_
  split
  · exact (put_costs p t₂).mono fun _ _ h₃ => (h₁.trans h₂).trans h₃
  · exact costs_stop _

theorem chunks_costs (limit : Option ℕ) (count total : ℕ) (t : Transfer) :
    (chunks limit count total).Costs t fun _ t' => Spares t t' := by
  induction count generalizing total t with
  | zero => exact costs_stop _
  | succ count ih =>
      refine (moveLine_costs t).bind (fun _ _ h => h.toSpares) fun l t₁ h₁ => ?_
      split
      · exact costs_stop _
      · exact (trailers_costs _ t₁).bind (fun _ _ h => h) fun _ _ h₂ =>
          costs_pure (h₁.toSpares.trans h₂)
      · refine (within_costs limit _ t₁).bind (fun _ _ h => h) fun _ t₂ h₂ => ?_
        refine (chunkData_costs _ t₂).bind (fun _ _ h => h) fun _ t₃ h₃ => ?_
        exact (ih _ t₃).mono fun _ _ h₄ => ((h₁.toSpares.trans h₂).trans h₃).trans h₄

/-- A body costs no more reads than bytes, and one. -/
theorem body_costs (limit : Option ℕ) (framing : Framing) (t : Transfer) :
    (body limit framing).Costs t fun _ t' => t'.source.tally ≤ t.source.tally + 1 := by
  cases framing with
  | empty => exact costs_pure (Nat.le_succ _)
  | fixed n =>
      exact (data_costs _ _ n t).bind (fun _ _ h => h) fun _ _ h =>
        costs_pure (h.tally.trans (Nat.le_succ _))
  | chunked =>
      exact .get ((chunks_costs limit _ 0 t).mono fun _ _ h => h.tally.trans (Nat.le_succ _))
  | untilClose =>
      refine .get ((passHeld_costs _ t).bind (fun _ _ h => h) fun _ t₁ h₁ => ?_)
      exact (untilEnd_costs _ _ t₁).mono fun _ _ h₂ => h₂.trans (Nat.add_le_add_right h₁.tally 1)

/-! ## Turns of loops -/

/-- A turn of a loop ends it, however many turns are left, or it comes to the rest of a loop, with a
transfer as described. -/
def Turn (reached : Transfer → Prop) (onward : (ℕ → Move α) → Prop) (body : ℕ → Move α)
    (t : Transfer) : Prop :=
  (∃ result, ∀ turns, body turns t = result) ∨
    ∃ rest t', onward rest ∧ reached t' ∧ ∀ turns, body turns t = rest turns t'

section

variable {reached : Transfer → Prop} {onward : (ℕ → Move α) → Prop}

theorem Turn.stop (result : EStateM.Result Stop Transfer α) {body : ℕ → Move α}
    (h : ∀ turns, body turns t = result) : Turn reached onward body t :=
  .inl ⟨result, h⟩

theorem Turn.on {rest : ℕ → Move α} (h : onward rest) (ht : reached t) :
    Turn reached onward rest t :=
  .inr ⟨rest, t, h, ht, fun _ => rfl⟩

/-- A turn that begins with a step ends with it, or goes on where the step is done. -/
theorem Turn.bind {m : Move β} {body : ℕ → β → Move α} {done : β → Transfer → Prop}
    (hm : m.Costs t done) (h : ∀ a t', done a t' → Turn reached onward (body · a) t') :
    Turn reached onward (fun turns => m >>= body turns) t := by
  have hbind (turns : ℕ) : (m >>= body turns) t = EStateM.bind m (body turns) t := rfl
  simp only [Turn, hbind, EStateM.bind]
  cases hstep : m t with
  | error s t' => exact .inl ⟨.error s t', fun _ => rfl⟩
  | ok a t' => exact h a t' (hm.of_ok hstep)

end

theorem line_turn (t : Transfer) :
    Turn (Consumes t) (· = lineWithin) (fun turns => lineWithin (turns + 1)) t := by
  refine .bind (heldLine?_costs t) fun found t₁ h₁ => ?_
  cases found with
  | some l => exact .stop _ fun _ => rfl
  | none =>
      obtain rfl := h₁.1 rfl
      exact .bind (fill_costs t₁) fun _ _ h₂ => .on rfl h₂

theorem pair_turn (t : Transfer) :
    Turn (Consumes t) (· = pairWithin) (fun turns => pairWithin (turns + 1)) t := by
  have hmore (t : Transfer) : Turn (Consumes t) (· = pairWithin)
      (fun turns => fill >>= fun _ => pairWithin turns) t :=
    .bind (fill_costs t) fun _ _ h₁ => .on rfl h₁
  obtain ⟨source, sink, clock, held, captured⟩ := t
  rcases held with _ | ⟨a, _ | ⟨b, held⟩⟩
  · exact hmore _
  · exact hmore _
  · exact .stop _ fun _ => rfl

theorem stream_turn (onEnd : Fault) (onFailure : String → Fault) (n : ℕ) (t : Transfer) :
    Turn (Consumes t) (fun rest => ∃ n', rest = fun turns => stream onEnd onFailure turns n')
      (fun turns => stream onEnd onFailure (turns + 1) n) t := by
  cases n with
  | zero => exact .stop _ fun _ => rfl
  | succ n =>
      have hsize : 0 < min dataRead (n + 1) := Nat.lt_min.mpr ⟨by decide, n.succ_pos⟩
      refine .bind (demand_costs onEnd onFailure hsize t) fun bytes t₁ h₁ => ?_
      refine .bind (pass_costs bytes t₁) fun _ t₂ h₂ => .on ⟨_, rfl⟩ ?_
      exact (Consumes.of_brought h₁.2 h₁.1).spares h₂

theorem untilEnd_turn (total : ℕ) (t : Transfer) :
    Turn (Consumes t) (fun rest => ∃ total', rest = fun turns => untilEnd turns total')
      (fun turns => untilEnd (turns + 1) total) t := by
  refine .bind (next_costs (by decide) t) fun reading t₁ h₁ => ?_
  cases reading with
  | bytes bytes =>
      refine .bind (pass_costs bytes t₁) fun _ t₂ h₂ => .on ⟨_, rfl⟩ ?_
      exact (Consumes.of_brought (h₁.2.2 bytes rfl) h₁.2.1).spares h₂
  | ended | failed | never => exact .stop _ fun _ => rfl

theorem trailers_turn (t : Transfer) :
    Turn (Consumes t) (· = trailers) (fun turns => trailers (turns + 1)) t := by
  refine .bind (moveLine_costs t) fun l t₁ h₁ => ?_
  by_cases hl : (l == Bytes.crlf) = true
  · simp only [hl]
    exact .stop _ fun _ => rfl
  · simp only [hl]
    exact .on rfl h₁

/-- Behind a chunk come other chunks, or the trailers. -/
theorem chunks_turn (limit : Option ℕ) (total : ℕ) (t : Transfer) :
    Turn (Consumes t)
      (fun rest => (∃ total', rest = fun turns => chunks limit turns total') ∨
        rest = fun turns => trailers (turns + 1) >>= fun _ => Pure.pure total)
      (fun turns => chunks limit (turns + 1) total) t := by
  refine .bind (moveLine_costs t) fun l t₁ h₁ => ?_
  match chunkSize l with
  | .error fault => exact .stop _ fun _ => rfl
  | .ok 0 => exact .on (.inr rfl) h₁
  | .ok (size + 1) =>
      refine .bind (within_costs limit _ t₁) fun _ t₂ h₂ => ?_
      refine .bind (chunkData_costs _ t₂) fun _ t₃ h₃ => .on (.inl ⟨_, rfl⟩) ?_
      exact (h₁.spares h₂).spares h₃

/-- Every loop that goes round has consumed a byte, of what was still to arrive or of what was held
back, and nothing can be consumed forever. -/
structure LoopsConsume : Prop where
  head : ∀ held peer clock, HeadTurn held peer clock
  line : ∀ t, Turn (Consumes t) (· = lineWithin) (fun turns => lineWithin (turns + 1)) t
  pair : ∀ t, Turn (Consumes t) (· = pairWithin) (fun turns => pairWithin (turns + 1)) t
  stream : ∀ onEnd onFailure n t, Turn (Consumes t)
    (fun rest => ∃ n', rest = fun turns => stream onEnd onFailure turns n')
    (fun turns => stream onEnd onFailure (turns + 1) n) t
  untilEnd : ∀ total t, Turn (Consumes t)
    (fun rest => ∃ total', rest = fun turns => untilEnd turns total')
    (fun turns => untilEnd (turns + 1) total) t
  trailers : ∀ t, Turn (Consumes t) (· = trailers) (fun turns => trailers (turns + 1)) t
  chunks : ∀ limit total t, Turn (Consumes t)
    (fun rest => (∃ total', rest = fun turns => chunks limit turns total') ∨
      rest = fun turns => Move.trailers (turns + 1) >>= fun _ => Pure.pure total)
    (fun turns => chunks limit (turns + 1) total) t
  finite : WellFounded fun t' t => Consumes t t'

theorem loopsConsume : LoopsConsume :=
  ⟨headTurn, line_turn, pair_turn, stream_turn, untilEnd_turn, trailers_turn, chunks_turn,
    wellFounded_consumes⟩

end Move

end Proxy

end TrafficCapture
