import TrafficCapture.Proofs.Proxy.Steady

/-! # Transfers side by side

Two transfers of which the same is upcoming are taken through one step after another. Their sources
may cut it in different ways, and each step ends in the same way in both. -/

namespace TrafficCapture.Net

/-- The clocks show the same time and are watched equally long. -/
structure Clock.Agrees (c c' : Clock) : Prop where
  now : c.now = c'.now
  horizon : c.horizon = c'.horizon

theorem Clock.Agrees.symm {c c' : Clock} (h : c.Agrees c') : c'.Agrees c :=
  ⟨h.now.symm, h.horizon.symm⟩

/-- Clocks still agree behind peers that are not waited for. -/
theorem Clock.Agrees.of_still {c c' k k' : Clock} {script script' rest rest' : List Event}
    (h : c.Agrees c') (ht : SameTime c k script rest) (ht' : SameTime c' k' script' rest')
    (hw : waits script = 0) (hw' : waits script' = 0) : k.Agrees k' := by
  refine ⟨?_, ?_⟩
  · rw [(ht.still hw).2, (ht'.still hw').2, h.now]
  · rw [ht.horizon, ht'.horizon, h.horizon]

/-- The same was done to both peers, and both take whatever is written to them. -/
structure Peer.Agrees (p p' : Peer) : Prop where
  received : p.received = p'.received
  shutDown : p.shutDown = p'.shutDown
  closed : p.closed = p'.closed
  takes : p.room = none
  takes' : p'.room = none

theorem Peer.Agrees.symm {p p' : Peer} (h : p.Agrees p') : p'.Agrees p :=
  ⟨h.received.symm, h.shutDown.symm, h.closed.symm, h.takes', h.takes⟩

/-- To be read from makes no difference to a peer. -/
theorem Peer.Agrees.of_same {p p' q q' : Peer} (h : p.Agrees p')
    (hq : q = { p with script := q.script, reads := q.reads })
    (hq' : q' = { p' with script := q'.script, reads := q'.reads }) : q.Agrees q' := by
  rw [hq, hq']
  exact ⟨h.received, h.shutDown, h.closed, h.takes, h.takes'⟩

end TrafficCapture.Net

namespace TrafficCapture.Proxy

open Net List

/-- Nothing that was done so far tells the transfers apart. -/
structure Transfer.Agrees (t t' : Transfer) : Prop where
  source : t.source.Agrees t'.source
  sink : t.sink.Agrees t'.sink
  clock : t.clock.Agrees t'.clock
  kept : t.captured.bytes = t'.captured.bytes
  space : t.captured.room = t'.captured.room

/-- Nothing that will be done tells the transfers apart either. -/
structure Transfer.Alike (t t' : Transfer) : Prop extends Agrees t t' where
  upcoming : t.upcoming = t'.upcoming
  steady : t.Steady
  steady' : t'.Steady

section

variable {t t' s s' : Transfer} {taken written data : Bytes}

theorem Transfer.Agrees.body? (h : t.Agrees t') : t.captured.body? = t'.captured.body? := by
  unfold Capture.body?
  rw [h.kept]

/-- One effect on both. -/
theorem Transfer.Alike.agrees (h : t.Alike t') (he : Effect written data t s)
    (he' : Effect written data t' s') : s.Agrees s' where
  source := h.source.of_same he.source he'.source
  sink := by
    refine ⟨?_, ?_, ?_, ?_, ?_⟩
    · rw [he.received, he'.received, h.sink.received]
    · rw [he.sink, he'.sink]
      exact h.sink.shutDown
    · rw [he.sink, he'.sink]
      exact h.sink.closed
    · rw [he.room, h.sink.takes, Option.map_none]
    · rw [he'.room, h.sink.takes', Option.map_none]
  clock := h.clock.of_still he.time he'.time h.steady.still h.steady'.still
  kept := by rw [he.captured, he'.captured, h.kept, h.space]
  space := by rw [he.space, he'.space, h.space]

/-- One step forward in both. -/
theorem Transfer.Alike.advance (h : t.Alike t') (ha : Advance taken written data t s)
    (ha' : Advance taken written data t' s') : s.Alike s' where
  toAgrees := h.agrees ha.toEffect ha'.toEffect
  upcoming := by
    have hsame := h.upcoming
    rw [ha.upcoming, ha'.upcoming] at hsame
    exact Delivery.behind_injective taken hsame
  steady := ha.steady h.steady
  steady' := ha'.steady h.steady'

end

namespace Move

/-- Two steps end alike: with one result, or stopped by one cause. -/
inductive EndAlike {α : Type} :
    EStateM.Result Stop Transfer α → EStateM.Result Stop Transfer α → Prop where
  | done (a : α) {s s' : Transfer} (h : s.Alike s') : EndAlike (.ok a s) (.ok a s')
  | stopped (cause : Stop) {s s' : Transfer} (h : s.Agrees s') :
      EndAlike (.error cause s) (.error cause s')

theorem EndAlike.cases_run {α : Type} {r r' : EStateM.Result Stop Transfer α}
    (h : EndAlike r r') : (∃ a s s', r = .ok a s ∧ r' = .ok a s' ∧ s.Alike s') ∨
      ∃ cause s s', r = .error cause s ∧ r' = .error cause s' ∧ s.Agrees s' := by
  cases h with
  | done a h => exact Or.inl ⟨a, _, _, rfl, rfl, h⟩
  | stopped cause h => exact Or.inr ⟨cause, _, _, rfl, rfl, h⟩

/-- A step ends alike from both states. -/
def Lockstep {α : Type} (m : Move α) (t t' : Transfer) : Prop := EndAlike (m t) (m t')

section

variable {α β : Type} {m m' : Move α} {t t' : Transfer}

/-- A step with one result and one way forward. -/
theorem EndAlike.of_done {a : α} {taken written data : Bytes} (h : t.Alike t')
    (hm : m.Ends t (fun b s => b = a ∧ Advance taken written data t s) fun _ _ => False)
    (hm' : m'.Ends t' (fun b s => b = a ∧ Advance taken written data t' s) fun _ _ => False) :
    EndAlike (m t) (m' t') := by
  cases hrun : m t with
  | error cause s => exact (hm.of_error hrun).elim
  | ok b s =>
      cases hrun' : m' t' with
      | error cause s' => exact (hm'.of_error hrun').elim
      | ok b' s' =>
          obtain ⟨rfl, ha⟩ := hm.of_ok hrun
          obtain ⟨rfl, ha'⟩ := hm'.of_ok hrun'
          exact .done _ (h.advance ha ha')

/-- A step that cannot be done, with one cause and one effect. -/
theorem EndAlike.of_stopped {cause : Stop} {written data : Bytes} (h : t.Alike t')
    (hm : m.Ends t (fun _ _ => False) fun c s => c = cause ∧ Effect written data t s)
    (hm' : m'.Ends t' (fun _ _ => False) fun c s => c = cause ∧ Effect written data t' s) :
    EndAlike (m t) (m' t') := by
  cases hrun : m t with
  | ok b s => exact (hm.of_ok hrun).elim
  | error c s =>
      cases hrun' : m' t' with
      | ok b' s' => exact (hm'.of_ok hrun').elim
      | error c' s' =>
          obtain ⟨rfl, he⟩ := hm.of_error hrun
          obtain ⟨rfl, he'⟩ := hm'.of_error hrun'
          exact .stopped _ (h.agrees he he')

theorem Lockstep.pure (a : α) (h : t.Alike t') : (Pure.pure a : Move α).Lockstep t t' :=
  .done a h

theorem Lockstep.fail (fault : Fault) (h : t.Alike t') :
    (Move.fail fault : Move α).Lockstep t t' :=
  .stopped _ h.toAgrees

theorem Lockstep.wait (h : t.Alike t') : (throw .waiting : Move α).Lockstep t t' :=
  .stopped _ h.toAgrees

/-- A sequence goes in lockstep if its first step does, and if the rest does from wherever that
ends. -/
theorem Lockstep.bind {f : α → Move β} (h : m.Lockstep t t')
    (hf : ∀ a s s', m t = .ok a s → s.Alike s' → (f a).Lockstep s s') :
    (m >>= f).Lockstep t t' := by
  unfold Lockstep
  rcases EndAlike.cases_run h with ⟨a, s, s', hrun, hrun', hs⟩ | ⟨cause, s, s', hrun, hrun', hs⟩
  · have hrest := hf a s s' hrun hs
    simpa [Lockstep, Bind.bind, EStateM.bind, hrun, hrun'] using hrest
  · simpa [Bind.bind, EStateM.bind, hrun, hrun'] using EndAlike.stopped cause hs

end

/-! ## Steps in lockstep -/

section

variable {t t' : Transfer}

theorem put_lockstep (bytes : Bytes) (h : t.Alike t') : (put bytes).Lockstep t t' := by
  have hput {s : Transfer} (hs : s.Steady) :
      (put bytes).Ends s (fun b s' => b = () ∧ Advance [] bytes [] s s') fun _ _ => False :=
    (put_steady bytes hs).mono (fun _ _ ha => ⟨rfl, ha⟩) fun _ _ h => h
  exact .of_done h (hput h.steady) (hput h.steady')

/-- The bytes do not begin with a line that, with its end, is too long to be waited for. -/
def LineFits (bytes : Bytes) : Prop :=
  ∀ l rest, bytes = l ++ rest → IsLine l → l.length ≤ lineLimit

/-- Where a line fits, it does not matter how it is cut, even if it is never whole. -/
theorem line_lockstep (h : t.Alike t') (hfits : LineFits t.upcoming.bytes) :
    line.Lockstep t t' := by
  by_cases hline : ∃ l rest, t.upcoming.bytes = l ++ rest ∧ IsLine l
  · obtain ⟨l, rest, hup, hl⟩ := hline
    have hup' : t'.upcoming.bytes = l ++ rest := by rw [← h.upcoming, hup]
    have hshort := hfits l rest hup hl
    exact .of_done h (line_found h.steady hup hl hshort) (line_found h.steady' hup' hl hshort)
  · have hnone : ∀ l rest, t.upcoming.bytes = l ++ rest → ¬ IsLine l :=
      fun l rest hup hl => hline ⟨l, rest, hup, hl⟩
    refine .of_stopped h (line_missing h.steady hnone) ?_
    rw [h.upcoming] at hnone ⊢
    exact line_missing h.steady' hnone

theorem moveLine_lockstep (h : t.Alike t') (hfits : LineFits t.upcoming.bytes) :
    moveLine.Lockstep t t' := by
  refine (line_lockstep h hfits).bind fun l s s' _ hs => ?_
  exact (put_lockstep l hs).bind fun _ _ _ _ hs => .pure l hs

theorem pair_lockstep (h : t.Alike t') : pair.Lockstep t t' := by
  by_cases hno : t.upcoming.bytes.length < 2
  · refine .of_stopped h (pair_missing h.steady hno) ?_
    rw [h.upcoming] at hno ⊢
    exact pair_missing h.steady' hno
  · have hup : t.upcoming.bytes = t.upcoming.bytes.take 2 ++ t.upcoming.bytes.drop 2 :=
      (take_append_drop 2 _).symm
    have hup' : t'.upcoming.bytes = t.upcoming.bytes.take 2 ++ t.upcoming.bytes.drop 2 := by
      rw [take_append_drop, h.upcoming]
    have hlen : (t.upcoming.bytes.take 2).length = 2 := by
      rw [length_take]
      omega
    exact .of_done h (pair_found h.steady hup hlen) (pair_found h.steady' hup' hlen)

theorem chunkEnd_lockstep (h : t.Alike t') : chunkEnd.Lockstep t t' := by
  refine (pair_lockstep h).bind fun p s s' _ hs => ?_
  split
  · exact put_lockstep p hs
  · exact .fail _ hs

theorem data_lockstep (onEnd : Fault) (onFailure : String → Fault) (n : ℕ) (h : t.Alike t') :
    (data onEnd onFailure n).Lockstep t t' := by
  by_cases hno : t.upcoming.bytes.length < n
  · have hdrained {s : Transfer} (hs : s.Steady) (hup : t.upcoming = s.upcoming) :
        (data onEnd onFailure n).Ends s (fun _ _ => False) fun c s' =>
          c = stopAt onEnd onFailure t.upcoming.ending ∧
            Effect t.upcoming.bytes t.upcoming.bytes s s' := by
      rw [hup] at hno ⊢
      exact (data_missing onEnd onFailure hs hno).mono (fun _ _ h => h)
        fun _ _ hd => ⟨hd.stop, hd.effect⟩
    exact .of_stopped h (hdrained h.steady rfl) (hdrained h.steady' h.upcoming)
  · have hlen : (t.upcoming.bytes.take n).length = n := by
      rw [length_take]
      omega
    have hfound {s : Transfer} (hs : s.Steady) (hup : t.upcoming = s.upcoming) :
        (data onEnd onFailure n).Ends s (fun b s' => b = () ∧
          Advance (t.upcoming.bytes.take n) (t.upcoming.bytes.take n) (t.upcoming.bytes.take n)
            s s') fun _ _ => False := by
      have hall : s.upcoming.bytes = t.upcoming.bytes.take n ++ t.upcoming.bytes.drop n := by
        rw [take_append_drop, hup]
      have hspec := data_found onEnd onFailure hs hall
      rw [hlen] at hspec
      exact hspec.mono (fun _ _ ha => ⟨rfl, ha⟩) fun _ _ h => h
    exact .of_done h (hfound h.steady rfl) (hfound h.steady' h.upcoming)

theorem chunkData_lockstep (size : ℕ) (h : t.Alike t') : (chunkData size).Lockstep t t' :=
  (data_lockstep _ _ size h).bind fun _ _ _ _ hs => chunkEnd_lockstep hs

theorem within_lockstep (limit : Option ℕ) (n : ℕ) (h : t.Alike t') :
    (within limit n).Lockstep t t' := by
  unfold within
  split
  · exact .pure _ h
  · split
    · exact .fail _ h
    · exact .pure _ h

end

/-! ## The lines of a chunked body -/

/-- The lines that are come upon behind the last chunk, if any are whole. -/
inductive MeetsTrailer (line : Bytes) : Bytes → Prop where
  | here (rest : Bytes) (isLine : IsLine line) : MeetsTrailer line (line ++ rest)
  | behind {first rest : Bytes} (isLine : IsLine first) (nonblank : first ≠ Bytes.crlf)
      (more : MeetsTrailer line rest) : MeetsTrailer line (first ++ rest)

/-- The lines that are come upon in what should be a chunked body, as far as it is one. -/
inductive Meets (line : Bytes) : Bytes → Prop where
  | size (rest : Bytes) (isLine : IsLine line) : Meets line (line ++ rest)
  | trailer {first rest : Bytes} (isLine : IsLine first) (size : chunkSize first = .ok 0)
      (more : MeetsTrailer line rest) : Meets line (first ++ rest)
  | behind {first data rest : Bytes} (isLine : IsLine first)
      (size : chunkSize first = .ok data.length) (nonempty : data ≠ []) (more : Meets line rest) :
      Meets line (first ++ (data ++ Bytes.crlf ++ rest))

theorem MeetsTrailer.length_le {line bytes : Bytes} (h : MeetsTrailer line bytes) :
    line.length ≤ bytes.length := by
  induction h with
  | here rest _ =>
      rw [length_append]
      exact Nat.le_add_right _ _
  | behind _ _ _ ih =>
      rw [length_append]
      exact Nat.le_add_left_of_le ih

theorem Meets.length_le {line bytes : Bytes} (h : Meets line bytes) :
    line.length ≤ bytes.length := by
  induction h with
  | size rest _ =>
      rw [length_append]
      exact Nat.le_add_right _ _
  | trailer _ _ more =>
      rw [length_append]
      exact Nat.le_add_left_of_le more.length_le
  | behind _ _ _ _ ih =>
      simp only [length_append]
      omega

/-- No line is met that, with its end, is too long. -/
def ChunksFit (bytes : Bytes) : Prop := ∀ line, Meets line bytes → line.length ≤ lineLimit

def TrailersFit (bytes : Bytes) : Prop :=
  ∀ line, MeetsTrailer line bytes → line.length ≤ lineLimit

theorem TrailersFit.lineFits {bytes : Bytes} (h : TrailersFit bytes) : LineFits bytes := by
  rintro l rest rfl hl
  exact h l (.here rest hl)

theorem ChunksFit.lineFits {bytes : Bytes} (h : ChunksFit bytes) : LineFits bytes := by
  rintro l rest rfl hl
  exact h l (.size rest hl)

theorem trailers_lockstep (lines : ℕ) (t t' : Transfer) (h : t.Alike t')
    (hfit : TrailersFit t.upcoming.bytes) : (trailers lines).Lockstep t t' := by
  induction lines generalizing t t' with
  | zero => exact .wait h
  | succ lines ih =>
      refine (moveLine_lockstep h hfit.lineFits).bind fun l s s' hrun hs => ?_
      obtain ⟨ha, hl⟩ := (moveLine_spec t).of_ok hrun
      split
      · exact .pure _ hs
      · rename_i hblank
        have hnonblank : l ≠ Bytes.crlf := fun h => hblank (beq_iff_eq.mpr h)
        apply ih s s' hs
        intro line hmeets
        apply hfit line
        rw [ha.upcoming_bytes]
        exact .behind hl hnonblank hmeets

/-- The loop over chunks goes in lockstep: what one pass takes is the same in both, and the lines
behind it are met behind what it took. -/
theorem chunks_lockstep (limit : Option ℕ) (count total : ℕ) (t t' : Transfer) (h : t.Alike t')
    (hfit : ChunksFit t.upcoming.bytes) : (chunks limit count total).Lockstep t t' := by
  induction count generalizing total t t' with
  | zero => exact .wait h
  | succ count ih =>
      refine (moveLine_lockstep h hfit.lineFits).bind fun l s s' hrun hs => ?_
      obtain ⟨ha, hl⟩ := (moveLine_spec t).of_ok hrun
      split
      · exact .fail _ hs
      · rename_i hsize
        have htrailers : TrailersFit s.upcoming.bytes := by
          intro line hmeets
          apply hfit line
          rw [ha.upcoming_bytes]
          exact .trailer hl hsize hmeets
        exact (trailers_lockstep (count + 1) s s' hs htrailers).bind
          fun _ _ _ _ hs => .pure total hs
      · rename_i size hpos hsize
        refine (within_lockstep limit (total + size) hs).bind fun _ s₁ s₁' hrun₁ hs₁ => ?_
        obtain ⟨rfl, -⟩ := (within_spec limit (total + size) s).of_ok hrun₁
        refine (chunkData_lockstep size hs₁).bind fun _ s₂ s₂' hrun₂ hs₂ => ?_
        obtain ⟨moved, rfl, ha₂⟩ := (chunkData_spec _ s₁).of_ok hrun₂
        have hmoved : moved ≠ [] := fun h => hpos (by rw [h, length_nil])
        apply ih _ s₂ s₂' hs₂
        intro line hmeets
        apply hfit line
        rw [ha.upcoming_bytes, ha₂.upcoming_bytes]
        exact .behind hl hsize hmoved hmeets

/-! ## Bodies -/

/-- The lines of a body of that framing are short enough. -/
def FramingFits (framing : Framing) (bytes : Bytes) : Prop := framing = .chunked → ChunksFit bytes

variable {t t' : Transfer}

theorem body_lockstep (limit : Option ℕ) (framing : Framing) (h : t.Alike t')
    (hfit : FramingFits framing t.upcoming.bytes) : (body limit framing).Lockstep t t' := by
  cases framing with
  | empty => exact .pure 0 h
  | fixed n => exact (data_lockstep _ _ n h).bind fun _ _ _ _ hs => .pure n hs
  | chunked =>
      have hahead : ahead t' = ahead t := by
        rw [ahead_eq h.steady, ahead_eq h.steady', h.upcoming]
      have hchunks := chunks_lockstep limit (ahead t + 1) 0 t t' h (hfit rfl)
      have hrun : body limit .chunked t' = chunks limit (ahead t + 1) 0 t' := by
        rw [← hahead]
        rfl
      unfold Lockstep
      rw [hrun]
      exact hchunks
  | untilClose =>
      have hrest := rest_steady h.steady'
      rw [← h.upcoming] at hrest
      exact EndAlike.of_done h (rest_steady h.steady) hrest

theorem send_lockstep (head : Bytes) (limit : Option ℕ) (framing : Framing) (h : t.Alike t')
    (hfit : FramingFits framing t.upcoming.bytes) :
    (put head >>= fun _ => body limit framing).Lockstep t t' := by
  refine (put_lockstep head h).bind fun _ s s' hrun hs => ?_
  apply body_lockstep limit framing hs
  have hput : t.upcoming.bytes = s.upcoming.bytes :=
    ((put_steady head h.steady).of_ok hrun).upcoming_bytes
  rwa [← hput]

end Move

end TrafficCapture.Proxy
