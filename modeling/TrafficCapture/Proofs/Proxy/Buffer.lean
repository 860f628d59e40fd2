import TrafficCapture.Proofs.Proxy.Body
import TrafficCapture.Proofs.Proxy.Course
import TrafficCapture.Proofs.Proxy.Head

/-! # Buffers

How much is held at once of what a peer sends. Heads and lines have a limit, which is looked at
behind a read and only where no end was found. What is held may therefore exceed it by one read, but
never by more. -/

namespace TrafficCapture.Proxy

open Net List

/-- The most bytes that are ever held of what a peer sends. -/
def bufferLimit : ℕ := headLimit + headRead

example : bufferLimit = 69632 := rfl

/-! ## Heads -/

/-- All that is held, one after another, while a head is read. -/
def headBuffers : (reads : ℕ) → Bytes → Peer → Clock → List Bytes
  | 0, held, _, _ => [held]
  | reads + 1, held, peer, clock =>
    held ::
      match peer.read headRead clock with
      | (.bytes more, peer, clock) =>
        match Bytes.cutAfter? Bytes.headEnd (held ++ more) with
        | some _ => [held ++ more]
        | none =>
          if headLimit < (held ++ more).length then [held ++ more]
          else headBuffers reads (held ++ more) peer clock
      | _ => []

theorem length_le_of_mem_headBuffers {reads : ℕ} {held : Bytes} {peer : Peer} {clock : Clock}
    (hheld : held.length ≤ headLimit) {buffer : Bytes}
    (h : buffer ∈ headBuffers reads held peer clock) : buffer.length ≤ bufferLimit := by
  have hfirst : held.length ≤ bufferLimit := hheld.trans (Nat.le_add_right _ _)
  induction reads generalizing held peer clock with
  | zero =>
      obtain rfl := mem_singleton.mp h
      exact hfirst
  | succ reads ih =>
      rcases hread : peer.read headRead clock with ⟨reading, left, later⟩
      simp only [headBuffers, hread, mem_cons] at h
      rcases h with rfl | h
      · exact hfirst
      · cases reading with
        | bytes more =>
            have hmore : more.length ≤ headRead := (Peer.tells_read (by decide) hread).1.2.1
            have hnext : (held ++ more).length ≤ bufferLimit := by
              rw [length_append, bufferLimit]
              omega
            simp only at h
            split at h
            · obtain rfl := mem_singleton.mp h
              exact hnext
            · split at h
              · obtain rfl := mem_singleton.mp h
                exact hnext
              · rename_i hshort
                exact ih (Nat.le_of_not_lt hshort) h hnext
        | ended | failed | never => exact (not_mem_nil h).elim

/-- What is held last is all that was taken. A head that was found and what is behind it are what
is held then. Otherwise no head is in it, and it is longer than the limit just if that is the
fault. -/
structure LastHeld (held : Bytes) (peer left : Peer) (result : Except HeadFault (Bytes × Bytes))
    (last : Bytes) : Prop where
  taken : held ++ content peer.script = last ++ content left.script
  found : ∀ raw behind, result = .ok (raw, behind) → last = raw ++ behind
  missed : ∀ fault, result = .error fault →
    Bytes.cutAfter? Bytes.headEnd last = none ∧ (fault = .tooLong ↔ headLimit < last.length)

/-- Where nothing is taken, what was held is held last. -/
theorem lastHeld_of_content {held : Bytes} {peer left : Peer} {fault : HeadFault}
    (hheld : held.length ≤ headLimit) (hnone : Bytes.cutAfter? Bytes.headEnd held = none)
    (hfault : fault ≠ .tooLong) (hleft : content peer.script = content left.script) :
    LastHeld held peer left (.error fault) held where
  taken := by rw [hleft]
  found := fun _ _ h => by cases h
  missed := by
    rintro _ ⟨⟩
    exact ⟨hnone, iff_of_false hfault (Nat.not_lt.mpr hheld)⟩

/-- The last of all that is held is what is held where the reading of a head ends. -/
theorem lastHeld_headBuffers (reads : ℕ) {held : Bytes} (peer : Peer) (clock : Clock)
    (hheld : held.length ≤ headLimit) (hnone : Bytes.cutAfter? Bytes.headEnd held = none) :
    ∃ last, (headBuffers reads held peer clock).getLast? = some last ∧
      LastHeld held peer (readHeadWithin reads held peer clock).2.1
        (readHeadWithin reads held peer clock).1 last := by
  induction reads generalizing held peer clock with
  | zero => exact ⟨held, rfl, lastHeld_of_content hheld hnone (by decide) rfl⟩
  | succ reads ih =>
      rcases hread : peer.read headRead clock with ⟨reading, left, later⟩
      have hscript : Net.read headRead peer.script clock = (reading, left.script, later) := by
        have hpeer : Net.read headRead peer.script clock = ((peer.read headRead clock).1,
            (peer.read headRead clock).2.1.script, (peer.read headRead clock).2.2) := rfl
        rw [hpeer, hread]
      simp only [readHeadWithin, headBuffers, hread]
      cases reading with
      | bytes more =>
          have htaken : held ++ content peer.script = held ++ more ++ content left.script := by
            rw [(content_of_read hscript (by decide)).1, append_assoc]
          cases hcut : Bytes.cutAfter? Bytes.headEnd (held ++ more) with
          | some cut =>
              simp only [hcut]
              refine ⟨held ++ more, rfl, htaken, ?_, fun _ h => by cases h⟩
              rintro raw behind ⟨⟩
              exact (Bytes.append_of_cutAfter? hcut).symm
          | none =>
              by_cases hlong : headLimit < (held ++ more).length
              · simp only [hcut, if_pos hlong]
                refine ⟨held ++ more, rfl, htaken, (fun _ _ h => by cases h), ?_⟩
                rintro _ ⟨⟩
                exact ⟨hcut, iff_of_true rfl hlong⟩
              · simp only [hcut, if_neg hlong]
                obtain ⟨last, hlast, h⟩ := ih left later (Nat.le_of_not_lt hlong) hcut
                refine ⟨last, by rw [getLast?_cons, hlast]; rfl, ?_, h.found, h.missed⟩
                rw [htaken, h.taken]
      | ended | failed | never =>
          have hleft := content_of_read_none hscript fun _ h => by cases h
          exact ⟨held, rfl, lastHeld_of_content hheld hnone (by decide) hleft⟩

/-- What is held last when a head is read from the beginning. -/
theorem lastHeld_readHead (peer : Peer) (clock : Clock) :
    ∃ last, (headBuffers (headLimit + 1) [] peer clock).getLast? = some last ∧
      LastHeld [] peer (readHead peer clock).2.1 (readHead peer clock).1 last :=
  lastHeld_headBuffers (headLimit + 1) peer clock (Nat.zero_le _) rfl

theorem length_le_of_readHead {peer left : Peer} {clock later : Clock} {raw behind : Bytes}
    (h : readHead peer clock = (.ok (raw, behind), left, later)) :
    (raw ++ behind).length ≤ bufferLimit := by
  obtain ⟨last, hlast, hheld⟩ := lastHeld_readHead peer clock
  rw [← hheld.found raw behind (by rw [h])]
  exact length_le_of_mem_headBuffers (Nat.zero_le _) (mem_of_getLast? hlast)

/-- What is held behind the head of a request is no more than what was held to read it. -/
theorem length_le_of_opening {client left : Peer} {clock later : Clock} {request : Request}
    {held : Bytes} (h : opening client clock = .wanted request held left later) :
    held.length ≤ bufferLimit := by
  unfold opening at h
  split at h
  · cases h
  · cases h
  · rename_i raw behind peer woken hread
    have hle := length_le_of_readHead hread
    rw [length_append] at hle
    split at h
    · cases h
    · split at h
      · cases h
      · cases h
        omega

/-! ## Transfers -/

/-- No more is held back than a buffer may hold. -/
def Transfer.Fits (t : Transfer) : Prop := t.held.length ≤ bufferLimit

theorem Transfer.Fits.drop {t : Transfer} (h : t.Fits) (n : ℕ) :
    ({ t with held := t.held.drop n } : Transfer).Fits := by
  show (t.held.drop n).length ≤ bufferLimit
  rw [length_drop]
  exact (Nat.sub_le _ _).trans h

/-- The transfer fits all along a course, in which nothing is written that is longer than a buffer.
Where the course is done, it is so as described. -/
structure Course.Stays {α : Type} {m : Move α} (c : Course m) (t : Transfer)
    (done : α → Transfer → Prop) : Prop where
  fits : ∀ u ∈ c.states t, u.Fits
  writes : ∀ bytes, Act.write bytes ∈ c.acts t → bytes.length ≤ bufferLimit
  done : ∀ a t', m t = .ok a t' → done a t'

namespace Course

variable {α β : Type} {m n : Move α} {t : Transfer} {done done' : α → Transfer → Prop}

theorem Stays.mono {c : Course m} (h : c.Stays t done)
    (hd : ∀ a t', m t = .ok a t' → done a t' → done' a t') : c.Stays t done' :=
  ⟨h.fits, h.writes, fun a t' hm => hd a t' hm (h.done a t' hm)⟩

/-- Where a course ends is one of the transfers that it passes through. -/
theorem ended_mem_states (c : Course m) (t : Transfer) : (ended (m t)).2 ∈ c.states t := by
  rw [states, ← c.foldl_acts]
  generalize c.acts t = acts
  induction acts generalizing t with
  | nil => exact mem_singleton_self t
  | cons a acts ih =>
      rw [passedThrough_cons]
      exact mem_cons_of_mem _ (ih _)

theorem stays_idle {h : ∀ t, (ended (m t)).2 = t} (hfits : t.Fits)
    (hd : ∀ a t', m t = .ok a t' → done a t') : (idle h).Stays t done :=
  ⟨fun _ hu => mem_singleton.mp hu ▸ hfits, fun _ hw => (not_mem_nil hw).elim, hd⟩

theorem stays_pure {a : α} (hfits : t.Fits) (hd : done a t) : (Course.pure a).Stays t done :=
  stays_idle hfits fun _ _ h => by
    cases h
    exact hd

theorem stays_stop {cause : Stop} (hfits : t.Fits) :
    (stop cause : Course (throw cause : Move α)).Stays t done :=
  stays_idle hfits fun _ _ h => by cases h

theorem stays_one {a : Act} {h : ∀ t, a.perform t = (ended (m t)).2} (hfits : t.Fits)
    (hnext : (a.perform t).Fits) (hw : ∀ bytes, a = .write bytes → bytes.length ≤ bufferLimit)
    (hd : ∀ a t', m t = .ok a t' → done a t') : (one a h).Stays t done where
  fits u hu := by
    rcases mem_pair.mp hu with rfl | rfl
    · exact hfits
    · exact hnext
  writes bytes hb := hw bytes (mem_singleton.mp hb).symm
  done := hd

/-- A sequence stays within bounds where its steps do. -/
theorem Stays.bind {f : α → Move β} {x : Course m} {y : ∀ a, Course (f a)}
    {finished : β → Transfer → Prop} (hx : x.Stays t done)
    (hy : ∀ a t', t'.Fits → done a t' → (y a).Stays t' finished) :
    (Course.bind x y).Stays t finished := by
  have hend := hx.fits _ (x.ended_mem_states t)
  have hlast := x.foldl_acts t
  have hbind : (m >>= f) t = EStateM.bind m f t := rfl
  cases hm : m t with
  | ok a t' =>
      rw [hm] at hend hlast
      have hrest := hy a t' hend (hx.done a t' hm)
      refine ⟨fun u hu => ?_, fun bytes hb => ?_, fun b t'' h => ?_⟩
      · simp only [states, Course.bind, hm, mem_passedThrough_append, hlast] at hu
        exact hu.elim (hx.fits u) (hrest.fits u)
      · simp only [Course.bind, hm, mem_append] at hb
        exact hb.elim (hx.writes bytes) (hrest.writes bytes)
      · rw [hbind, EStateM.bind, hm] at h
        exact hrest.done b t'' h
  | error s t' =>
      refine ⟨fun u hu => ?_, fun bytes hb => ?_, fun b t'' h => ?_⟩
      · simp only [states, Course.bind, hm, append_nil] at hu
        exact hx.fits u hu
      · simp only [Course.bind, hm, append_nil] at hb
        exact hx.writes bytes hb
      · rw [hbind, EStateM.bind, hm] at h
        cases h

theorem Stays.ite {c : Prop} [Decidable c] {x : Course m} {y : Course n}
    (hx : c → x.Stays t done) (hy : ¬ c → y.Stays t done) :
    (Course.ite (c := c) x y).Stays t done := by
  by_cases hc : c
  · obtain ⟨hfits, hwrites, hdone⟩ := hx hc
    refine ⟨?_, ?_, ?_⟩
    · simpa [states, Course.ite, hc] using hfits
    · simpa [Course.ite, hc] using hwrites
    · simpa [hc] using hdone
  · obtain ⟨hfits, hwrites, hdone⟩ := hy hc
    refine ⟨?_, ?_, ?_⟩
    · simpa [states, Course.ite, hc] using hfits
    · simpa [Course.ite, hc] using hwrites
    · simpa [hc] using hdone

theorem stays_look {f : Transfer → Move α} {course : ∀ t, Course (f t)} (h : ∀ t, m t = f t t)
    (hstays : (course t).Stays t done) : (look f course h).Stays t done :=
  ⟨hstays.fits, hstays.writes, fun a t' hm => hstays.done a t' (h t ▸ hm)⟩

/-! ### Reading and writing -/

theorem stays_next {size : ℕ} (hsize : 0 < size) (hfits : t.Fits) :
    (next size).Stays t fun reading t' =>
      t'.held = t.held ∧ ∀ bytes, reading = .bytes bytes → bytes.length ≤ size := by
  refine stays_one hfits hfits nofun fun reading t' h => ?_
  obtain ⟨⟨-, hheld⟩, htells⟩ := (Move.next_spec hsize t).of_ok h
  refine ⟨hheld, ?_⟩
  rintro bytes rfl
  exact htells.2.1

theorem stays_put {bytes : Bytes} (hbytes : bytes.length ≤ bufferLimit) (hfits : t.Fits) :
    (put bytes).Stays t fun _ t' => t'.held = t.held := by
  refine stays_one hfits hfits ?_ fun _ _ h => ((Move.put_spec bytes t).of_ok h).2
  rintro _ ⟨⟩
  exact hbytes

theorem stays_keep {bytes : Bytes} (hfits : t.Fits) :
    (keep bytes).Stays t fun _ t' => t'.held = t.held :=
  stays_one hfits hfits nofun fun _ _ h => ((Move.keep_spec bytes t).of_ok h).2

theorem stays_pass {bytes : Bytes} (hbytes : bytes.length ≤ bufferLimit) (hfits : t.Fits) :
    (pass bytes).Stays t fun _ t' => t'.held = t.held :=
  (stays_put hbytes hfits).bind fun _ _ hfits' hheld =>
    (stays_keep hfits').mono fun _ _ _ hheld' => hheld'.trans hheld

theorem stays_takeHeld (n : ℕ) (hfits : t.Fits) :
    (takeHeld n).Stays t fun front _ => front.length ≤ bufferLimit := by
  refine stays_one hfits (hfits.drop n) nofun fun front _ h => ?_
  obtain ⟨-, rfl, -⟩ := (Move.takeHeld_spec n t).of_ok h
  rw [length_take]
  exact (Nat.min_le_right _ _).trans hfits

theorem stays_demand {onEnd : Fault} {onFailure : String → Fault} {size : ℕ} (hsize : 0 < size)
    (hfits : t.Fits) : (demand onEnd onFailure size).Stays t fun bytes t' =>
      t'.held = t.held ∧ bytes.length ≤ size := by
  refine (stays_next hsize hfits).bind fun reading t' hfits' h => ?_
  cases reading with
  | bytes bytes => exact stays_pure hfits' ⟨h.1, h.2 bytes rfl⟩
  | ended | failed | never => exact stays_stop hfits'

/-- What was read is held back where a line may still be short enough. -/
theorem stays_fill (hshort : t.held.length ≤ Move.lineLimit) (hfits : t.Fits) :
    fill.Stays t fun _ _ => True := by
  have hread : Move.lineLimit + Move.lineRead = bufferLimit := rfl
  refine (stays_demand (by decide) hfits).bind fun bytes t' hfits' h => ?_
  have hmore : (t'.held ++ bytes).length ≤ bufferLimit := by
    rw [length_append, h.1]
    omega
  exact stays_one hfits' hmore nofun fun _ _ _ => trivial

/-! ### Lines, pairs and data -/

theorem stays_heldLine? (hfits : t.Fits) : heldLine?.Stays t fun found t' =>
    (∀ l, found = some l → l.length ≤ bufferLimit) ∧
      (found = none → t'.held.length ≤ Move.lineLimit) := by
  refine stays_look _ ?_
  split
  · rename_i l held hcut
    have hline : l.length ≤ bufferLimit := by
      have hall := congrArg length (Bytes.append_of_cutAfter? hcut)
      rw [length_append] at hall
      have hle : t.held.length ≤ bufferLimit := hfits
      omega
    refine stays_one hfits (hfits.drop _) nofun fun found t' h => ?_
    cases h
    exact ⟨fun _ h => Option.some.inj h ▸ hline, nofun⟩
  · refine .ite (fun _ => stays_stop hfits) fun hshort => ?_
    exact stays_pure hfits ⟨nofun, fun _ => Nat.le_of_not_lt hshort⟩

theorem stays_lineWithin (tries : ℕ) (hfits : t.Fits) :
    (lineWithin tries).Stays t fun l _ => l.length ≤ bufferLimit := by
  induction tries generalizing t with
  | zero => exact stays_stop hfits
  | succ tries ih =>
      refine (stays_heldLine? hfits).bind fun found t₁ hfits₁ h => ?_
      cases found with
      | some l => exact stays_pure hfits₁ (h.1 l rfl)
      | none => exact (stays_fill (h.2 rfl) hfits₁).bind fun _ t₂ hfits₂ _ => ih hfits₂

theorem stays_pairWithin (tries : ℕ) (hfits : t.Fits) :
    (pairWithin tries).Stays t fun p _ => p.length = 2 := by
  induction tries generalizing t with
  | zero => exact stays_stop hfits
  | succ tries ih =>
      refine stays_look _ ?_
      have hmore (hshort : t.held.length < 2) :
          (bind fill fun _ => pairWithin tries).Stays t fun p _ => p.length = 2 := by
        refine (stays_fill ?_ hfits).bind fun _ _ hfits₁ _ => ih hfits₁
        exact hshort.le.trans (by decide)
      rcases hheld : t.held with _ | ⟨a, _ | ⟨b, held⟩⟩
      · exact hmore (by simp [hheld])
      · exact hmore (by simp [hheld])
      · refine stays_one hfits (hfits.drop 2) nofun fun p t' h => ?_
        cases h
        rfl

theorem stays_stream {onEnd : Fault} {onFailure : String → Fault} (reads n : ℕ)
    (hfits : t.Fits) : (stream onEnd onFailure reads n).Stays t fun _ _ => True := by
  induction reads generalizing n t with
  | zero =>
      cases n with
      | zero => exact stays_pure hfits trivial
      | succ n => exact stays_stop hfits
  | succ reads ih =>
      cases n with
      | zero => exact stays_pure hfits trivial
      | succ n =>
          have hsize : 0 < min Move.dataRead (n + 1) := Nat.lt_min.mpr ⟨by decide, n.succ_pos⟩
          have hread : Move.dataRead ≤ bufferLimit := by decide
          refine (stays_demand hsize hfits).bind fun bytes t₁ hfits₁ h => ?_
          have hbytes : bytes.length ≤ bufferLimit := by omega
          exact (stays_pass hbytes hfits₁).bind fun _ t₂ hfits₂ _ => ih _ hfits₂

theorem stays_passHeld (n : ℕ) (hfits : t.Fits) :
    (passHeld n).Stays t fun _ _ => True := by
  refine (stays_takeHeld n hfits).bind fun front t₁ hfits₁ hfront => ?_
  refine .ite (fun _ => stays_pure hfits₁ trivial) fun _ => ?_
  exact (stays_pass hfront hfits₁).bind fun _ t₂ hfits₂ _ => stays_pure hfits₂ trivial

theorem stays_data {onEnd : Fault} {onFailure : String → Fault} (n : ℕ) (hfits : t.Fits) :
    (data onEnd onFailure n).Stays t fun _ _ => True :=
  (stays_passHeld n hfits).bind fun _ _ hfits₁ _ => stays_stream _ _ hfits₁

theorem stays_untilEnd (reads total : ℕ) (hfits : t.Fits) :
    (untilEnd reads total).Stays t fun _ _ => True := by
  have hread : Move.dataRead ≤ bufferLimit := by decide
  induction reads generalizing total t with
  | zero => exact stays_stop hfits
  | succ reads ih =>
      refine (stays_next (by decide) hfits).bind fun reading t₁ hfits₁ h => ?_
      cases reading with
      | bytes bytes =>
          have hbytes := (h.2 bytes rfl).trans hread
          exact (stays_pass hbytes hfits₁).bind fun _ t₂ hfits₂ _ => ih _ hfits₂
      | ended => exact stays_pure hfits₁ trivial
      | failed | never => exact stays_stop hfits₁

/-! ### Chunks and bodies -/

theorem stays_moveLine (hfits : t.Fits) : moveLine.Stays t fun _ _ => True :=
  (stays_lineWithin _ hfits).bind fun _ _ hfits₁ hl =>
    (stays_put hl hfits₁).bind fun _ _ hfits₂ _ => stays_pure hfits₂ trivial

theorem stays_trailers (lines : ℕ) (hfits : t.Fits) :
    (trailers lines).Stays t fun _ _ => True := by
  induction lines generalizing t with
  | zero => exact stays_stop hfits
  | succ lines ih =>
      refine (stays_moveLine hfits).bind fun l t₁ hfits₁ _ => ?_
      exact .ite (fun _ => stays_pure hfits₁ trivial) fun _ => ih hfits₁

theorem stays_within (limit : Option ℕ) (total : ℕ) (hfits : t.Fits) :
    (within limit total).Stays t fun _ _ => True := by
  cases limit with
  | none => exact stays_pure hfits trivial
  | some limit => exact .ite (fun _ => stays_stop hfits) fun _ => stays_pure hfits trivial

theorem stays_chunkEnd (hfits : t.Fits) : chunkEnd.Stays t fun _ _ => True := by
  refine (stays_pairWithin _ hfits).bind fun p t₁ hfits₁ hp => .ite (fun _ => ?_) fun _ => ?_
  · have hle : p.length ≤ bufferLimit := hp.trans_le (by decide)
    exact (stays_put hle hfits₁).mono fun _ _ _ _ => trivial
  · exact stays_stop hfits₁

theorem stays_chunkData (size : ℕ) (hfits : t.Fits) :
    (chunkData size).Stays t fun _ _ => True :=
  (stays_data size hfits).bind fun _ _ hfits₁ _ => stays_chunkEnd hfits₁

theorem stays_chunks (limit : Option ℕ) (count total : ℕ) (hfits : t.Fits) :
    (chunks limit count total).Stays t fun _ _ => True := by
  induction count generalizing total t with
  | zero => exact stays_stop hfits
  | succ count ih =>
      refine (stays_moveLine hfits).bind fun l t₁ hfits₁ _ => ?_
      match Move.chunkSize l with
      | .error fault => exact stays_stop hfits₁
      | .ok 0 =>
          exact (stays_trailers _ hfits₁).bind fun _ _ hfits₂ _ => stays_pure hfits₂ trivial
      | .ok (size + 1) =>
          refine (stays_within _ _ hfits₁).bind fun _ t₂ hfits₂ _ => ?_
          exact (stays_chunkData _ hfits₂).bind fun _ _ hfits₃ _ => ih _ hfits₃

theorem stays_body (limit : Option ℕ) (framing : Framing) (hfits : t.Fits) :
    (body limit framing).Stays t fun _ _ => True := by
  cases framing with
  | empty => exact stays_pure hfits trivial
  | fixed n => exact (stays_data n hfits).bind fun _ _ hfits₁ _ => stays_pure hfits₁ trivial
  | chunked =>
      rw [body]
      exact stays_look _ (stays_chunks limit _ 0 hfits)
  | untilClose =>
      rw [body]
      refine stays_look _ ?_
      exact (stays_passHeld _ hfits).bind fun _ _ hfits₁ _ => stays_untilEnd _ _ hfits₁

/-! ## What is captured -/

/-- What is captured takes its room from what may still be captured, whatever is done. -/
theorem captured_of_mem_passedThrough {t u : Transfer} {acts : List Act}
    (ht : t.captured.bytes.length + t.captured.room ≤ captureLimit)
    (hu : u ∈ passedThrough t acts) : u.captured.bytes.length ≤ captureLimit := by
  induction acts generalizing t with
  | nil =>
      obtain rfl := mem_singleton.mp hu
      omega
  | cons a acts ih =>
      rw [passedThrough_cons, mem_cons] at hu
      rcases hu with rfl | hu
      · omega
      · refine ih ?_ hu
        cases a with
        | keep bytes =>
            simp only [Act.perform, Capture.bytes_push, Capture.room_push, length_append,
              length_take]
            omega
        | read | write | hold | take => exact ht

/-! ## A head and a body -/

/-- All that is held, captured and written along a course is within bounds, but for the head that is
written first. -/
structure Bounded (c : Course m) (head : Bytes) (t : Transfer) : Prop where
  held : ∀ u ∈ c.states t, u.held.length ≤ bufferLimit
  captured : ∀ u ∈ c.states t, u.captured.bytes.length ≤ captureLimit
  writes : ∃ acts, c.acts t = .write head :: acts ∧
    ∀ bytes, Act.write bytes ∈ acts → bytes.length ≤ bufferLimit

/-- Whatever is sent, it is sent within bounds. -/
theorem bounded_send (head : Bytes) (limit : Option ℕ) (framing : Framing) (hfits : t.Fits)
    (hempty : t.captured = {}) :
    (bind (put head) fun _ => body limit framing).Bounded head t := by
  have hlast := (put head).foldl_acts t
  have hall : ∃ acts, (bind (put head) fun _ => body limit framing).acts t = .write head :: acts ∧
      (∀ u ∈ passedThrough ((Act.write head).perform t) acts, u.Fits) ∧
      ∀ bytes, Act.write bytes ∈ acts → bytes.length ≤ bufferLimit := by
    cases hput : Move.put head t with
    | ok _ t' =>
        rw [hput] at hlast
        have hfirst : (Act.write head).perform t = t' := hlast
        have hfits' : t'.Fits := by
          rw [← hfirst]
          exact hfits
        have hbody := stays_body limit framing hfits'
        refine ⟨(body limit framing).acts t', by simp only [bind, hput]; rfl, ?_, hbody.writes⟩
        rw [hfirst]
        exact hbody.fits
    | error s t' =>
        refine ⟨[], by simp only [bind, hput]; rfl, fun u hu => ?_, nofun⟩
        obtain rfl := mem_singleton.mp hu
        exact hfits
  obtain ⟨acts, hacts, hfitting, hwrites⟩ := hall
  refine ⟨fun u hu => ?_, fun u hu => ?_, acts, hacts, hwrites⟩
  · rw [states, hacts, passedThrough_cons, mem_cons] at hu
    rcases hu with rfl | hu
    · exact hfits
    · exact hfitting u hu
  · refine captured_of_mem_passedThrough ?_ hu
    rw [hempty]
    decide

end Course

/-! ## What is accepted -/

/-- Something that ends with the first mark is looked for. What is within the limit is not too long,
and what does not end within a buffer is too long. It is known which, as long as nobody waits in
vain. -/
structure Sized (mark bytes : Bytes) (watched : Prop) (found : Bytes → Prop) (tooLong : Prop) :
    Prop where
  accepted : ∀ front back, bytes = front ++ back → Bytes.EndsAtFirst mark front →
    front.length ≤ headLimit → ¬ tooLong ∧ (watched → found front)
  refused : bufferLimit < bytes.length →
    (∀ front back, bytes = front ++ back → Bytes.EndsAtFirst mark front →
      bufferLimit < front.length) → (∀ front, ¬ found front) ∧ (watched → tooLong)

theorem readHead_sized (peer : Peer) (clock : Clock) :
    Sized Bytes.headEnd (delivery peer.script).bytes (Outlasts clock peer.script)
      (fun raw => ∃ behind, (readHead peer clock).1 = .ok (raw, behind))
      ((readHead peer clock).1 = .error .tooLong) := by
  rcases hread : readHead peer clock with ⟨fault | ⟨raw, behind⟩, left, later⟩
  · have hno := readHead_stop hread
    refine ⟨fun front back hup hends hshort => ⟨fun htooLong => ?_, fun hw => ?_⟩,
      fun hlong _ => ⟨nofun, fun hw => ?_⟩⟩
    · have := hno.tooLong (Except.error.inj htooLong) front back hup hends
      omega
    · have := hno.long hw back hup hends
      omega
    · by_contra hfault
      have := (hno.searched (fun h => hfault (h ▸ rfl)) hw).1
      exact absurd hlong (by rw [bufferLimit]; omega)
  · have hends := endsAtFirst_of_readHead hread
    have hle := length_le_of_readHead hread
    have hall := congrArg Delivery.bytes (delivery_of_readHead hread)
    rw [Delivery.behind_bytes, append_assoc] at hall
    refine ⟨fun front back hup hends' hshort => ⟨nofun, fun _ => ?_⟩, fun hlong hfar => ?_⟩
    · obtain ⟨rfl, -⟩ := hends.unique hends' headEnd_ne_nil (hall.symm.trans hup)
      exact ⟨behind, rfl⟩
    · have := hfar raw _ hall hends
      rw [length_append] at hle
      omega

theorem line_sized {t : Transfer} (hfits : t.Fits) :
    Sized Bytes.crlf t.upcoming.bytes t.Watched (fun l => ∃ t', Move.line t = .ok l t')
      (∃ t', Move.line t = .error (.failed .lineTooLong) t') := by
  have hlimit : Move.lineLimit = headLimit := rfl
  have hspec := Move.line_spec t
  cases hline : Move.line t with
  | ok l t' =>
      obtain ⟨ha, hends⟩ := hspec.of_ok hline
      have hle := (Course.stays_lineWithin _ hfits).done l t' hline
      refine ⟨fun front back hup hends' hshort => ⟨nofun, fun _ => ?_⟩, fun hlong hfar => ?_⟩
      · obtain ⟨rfl, -⟩ := hends.unique hends' Move.crlf_ne_nil (ha.upcoming_bytes.symm.trans hup)
        exact ⟨t', rfl⟩
      · have := hfar l _ ha.upcoming_bytes hends
        omega
  | error s t' =>
      have hno := hspec.of_error hline
      refine ⟨fun front back hup hends hshort => ⟨fun htooLong => ?_, fun hw => ?_⟩,
        fun hlong _ => ⟨nofun, fun hw => ?_⟩⟩
      · obtain ⟨_, h⟩ := htooLong
        have := hno.tooLong (by cases h; rfl) front back hup hends
        omega
      · have := hno.long hw front back hup hends
        omega
      · by_cases hs : s = .failed .lineTooLong
        · exact ⟨t', by rw [hs]⟩
        · have := (hno.searched hs hw).1
          exact absurd hlong (by rw [bufferLimit]; omega)

/-- However long the streams of a client and a server are, and however they are cut, no more than
69632 bytes are ever held of what they send, and no more than 524288 bytes of a body are captured.
This is so while heads are read, up to all that was taken when the reading ends, and at every point
of the transfers of a request and of a response that follow. Neither is anything longer written to a
peer but the head. Heads and lines that end within the first 65536 bytes are not too long, and those
that do not end within the first 69632 bytes are. -/
theorem buffers_bounded :
    (∀ peer clock,
      (∀ held ∈ headBuffers (headLimit + 1) [] peer clock, held.length ≤ bufferLimit) ∧
      (∃ last, (headBuffers (headLimit + 1) [] peer clock).getLast? = some last ∧
        LastHeld [] peer (readHead peer clock).2.1 (readHead peer clock).1 last) ∧
      Sized Bytes.headEnd (delivery peer.script).bytes (Outlasts clock peer.script)
        (fun raw => ∃ behind, (readHead peer clock).1 = .ok (raw, behind))
        ((readHead peer clock).1 = .error .tooLong)) ∧
    (∀ client clock request held left later,
      opening client clock = .wanted request held left later → ∀ server watch,
        (Course.request request).Bounded request.headBytes ⟨left, server, watch, held, {}⟩) ∧
    (∀ server clock raw held left later,
      readHead server clock = (.ok (raw, held), left, later) → ∀ client head framing,
        (Course.response head framing).Bounded (responseHeadBytes head)
          ⟨left, client, later, held, {}⟩) ∧
    ∀ t : Transfer, t.Fits →
      Sized Bytes.crlf t.upcoming.bytes t.Watched (fun l => ∃ t', Move.line t = .ok l t')
        (∃ t', Move.line t = .error (.failed .lineTooLong) t') := by
  refine ⟨fun peer clock =>
      ⟨fun held h => ?_, lastHeld_readHead peer clock, readHead_sized peer clock⟩,
    fun client clock request held left later h server watch => ?_,
    fun server clock raw held left later h client head framing => ?_, fun t => line_sized⟩
  · exact length_le_of_mem_headBuffers (Nat.zero_le _) h
  · exact Course.bounded_send _ _ _ (length_le_of_opening h) rfl
  · have hle := length_le_of_readHead h
    rw [length_append] at hle
    have hheld : held.length ≤ bufferLimit := by omega
    exact Course.bounded_send _ _ _ hheld rfl

/-- A client with a head and the beginning of a chunk behind it, all in one segment. -/
def promptClient : Peer where
  script := [.arrival (Bytes.ofAscii
    "POST http://page/ HTTP/1.1\r\nTransfer-Encoding: chunked\r\n\r\n2\r\nhi")]

/-- A server with a head and a body behind it, all in one segment. -/
def promptServer : Peer where
  script := [.arrival (Bytes.ofAscii "HTTP/1.1 200 OK\r\n\r\nhi")]

/-- What arrived behind the heads is held back from the beginning, and the line in it is found. -/
theorem buffers_bounded_prompt :
    let held := Bytes.ofAscii "2\r\nhi"
    (∃ request left, opening promptClient ⟨100, []⟩ = .wanted request held left ⟨100, []⟩ ∧
      (Course.request request).Bounded request.headBytes ⟨left, {}, ⟨100, []⟩, held, {}⟩) ∧
    (Course.response ⟨1, 200, "OK", []⟩ .untilClose).Bounded
      (responseHeadBytes ⟨1, 200, "OK", []⟩)
      ⟨{ reads := 1 }, {}, ⟨100, []⟩, Bytes.ofAscii "hi", {}⟩ ∧
    ∃ t', Move.line ⟨{}, {}, ⟨100, []⟩, held, {}⟩ = .ok (Bytes.ofAscii "2\r\n") t' := by
  obtain ⟨-, hrequest, hresponse, hline⟩ := buffers_bounded
  have hopening : opening promptClient ⟨100, []⟩ =
      .wanted ⟨.post, ⟨.http, "page", 80, "/"⟩, "HTTP/1.1", [("Transfer-Encoding", "chunked")],
        .chunked⟩ (Bytes.ofAscii "2\r\nhi") { reads := 1 } ⟨100, []⟩ := by decide +kernel
  have hread : readHead promptServer ⟨100, []⟩ =
      (.ok (Bytes.ofAscii "HTTP/1.1 200 OK\r\n\r\n", Bytes.ofAscii "hi"), { reads := 1 },
        ⟨100, []⟩) := by decide +kernel
  refine ⟨⟨_, _, hopening, hrequest _ _ _ _ _ _ hopening _ _⟩,
    hresponse _ _ _ _ _ _ hread _ _ _, ?_⟩
  have hheld : (Bytes.ofAscii "2\r\nhi").length ≤ bufferLimit := by decide
  have hsized := hline ⟨{}, {}, ⟨100, []⟩, Bytes.ofAscii "2\r\nhi", {}⟩ hheld
  exact (hsized.accepted (Bytes.ofAscii "2\r\n") (Bytes.ofAscii "hi") (by decide) (by decide)
    (by decide)).2 (Nat.zero_le _)

end TrafficCapture.Proxy
