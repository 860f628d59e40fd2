import TrafficCapture.Proofs.Proxy.Grammar

/-! # Chunks beyond a limit

The sizes that chunks announce are added up. The first line that takes the sum beyond the limit ends
the transfer before any data of its chunk is moved, and nothing else ends it for that reason. All
ways in which a transfer of chunks breaks off are told once, and what follows for its data and for
the limit is read off them. -/

namespace TrafficCapture.Proxy

open Net List

/-! ## The chunk that is too large -/

/-- Complete chunks, with their sizes and all their data. -/
inductive ChunksText : Bytes → List ℕ → Bytes → Prop
  | nil : ChunksText [] [] []
  | chunk {line data wire rest : Bytes} {sizes : List ℕ}
      (announced : AnnouncesSize line data.length) (nonempty : data ≠ [])
      (more : ChunksText wire sizes rest) :
      ChunksText (line ++ (data ++ (Bytes.crlf ++ wire))) (data.length :: sizes) (data ++ rest)

/-- Chunks that come to no more than the limit, and a line behind them that announces more than is
left of it. -/
structure Exceeds (limit : ℕ) (wire line : Bytes) (sizes : List ℕ) (size : ℕ) (data : Bytes) :
    Prop where
  chunks : ChunksText wire sizes data
  announced : AnnouncesSize line size
  admitted : sizes.sum ≤ limit
  beyond : limit < sizes.sum + size

theorem ChunksText.sum_sizes {wire data : Bytes} {sizes : List ℕ} (h : ChunksText wire sizes data) :
    sizes.sum = data.length := by
  induction h with
  | nil => rfl
  | chunk announced nonempty more ih => rw [sum_cons, ih, length_append]

/-- A chunk in front takes its size from the limit. -/
theorem Exceeds.cons {limit size : ℕ} {first data' wire line data : Bytes} {sizes : List ℕ}
    (announced : AnnouncesSize first data'.length) (nonempty : data' ≠ [])
    (hle : data'.length ≤ limit)
    (h : Exceeds (limit - data'.length) wire line sizes size data) :
    Exceeds limit (first ++ (data' ++ (Bytes.crlf ++ wire))) line (data'.length :: sizes) size
      (data' ++ data) where
  chunks := .chunk announced nonempty h.chunks
  announced := h.announced
  admitted := by
    have := h.admitted
    rw [sum_cons]
    omega
  beyond := by
    have := h.beyond
    rw [sum_cons]
    omega

/-- The first line announces data: too much by itself, or as much as there is behind it of a chunk
in front. -/
theorem Exceeds.cases_line {limit size : ℕ} {wire line data l w rest : Bytes} {sizes : List ℕ}
    (h : Exceeds limit wire line sizes size data) (hl : IsLine l)
    (hup : wire ++ (line ++ rest) = l ++ w) :
    ∃ n, Move.chunkSize l = .ok n ∧ n ≠ 0 ∧
      ((limit < n ∧ wire = [] ∧ line = l ∧ data = []) ∨
        ∃ first wire' sizes' more, first.length = n ∧ n ≤ limit ∧
          Exceeds (limit - n) wire' line sizes' size more ∧
          wire = l ++ (first ++ (Bytes.crlf ++ wire')) ∧ data = first ++ more ∧
          w = first ++ (Bytes.crlf ++ (wire' ++ (line ++ rest)))) := by
  obtain ⟨chunks, announced, admitted, beyond⟩ := h
  cases chunks with
  | nil =>
      obtain ⟨rfl, -⟩ := announced.isLine.unique hl Move.crlf_ne_nil hup
      have hbeyond : limit < size := by simpa using beyond
      exact ⟨size, (announcesSize_iff.mp announced).2, by omega, .inl ⟨hbeyond, rfl, rfl, rfl⟩⟩
  | @chunk _ first wire' more sizes' announced' nonempty chunks =>
      simp only [append_assoc] at hup
      obtain ⟨rfl, rfl⟩ := announced'.isLine.unique hl Move.crlf_ne_nil hup
      rw [sum_cons] at admitted beyond
      exact ⟨first.length, (announcesSize_iff.mp announced').2,
        fun h => nonempty (length_eq_zero_iff.mp h),
        .inr ⟨first, wire', sizes', more, rfl, by omega,
          ⟨chunks, announced, by omega, by omega⟩, rfl, rfl, rfl⟩⟩

/-- A body that goes on behind a line that exceeds the limit has more data than that. -/
theorem Exceeds.lt_length_data {limit size : ℕ} {wire line data rest rest' : Bytes}
    {sizes : List ℕ} (h : Exceeds limit wire line sizes size data) (b : ChunkedBody)
    (hup : wire ++ (line ++ rest) = b.wire ++ rest') : limit < b.data.length := by
  induction b generalizing limit wire data sizes with
  | last l isLine hsize trailers =>
      rw [ChunkedBody.wire, append_assoc] at hup
      obtain ⟨n, hn, hne, -⟩ := h.cases_line isLine hup
      exact (hne (Except.ok.inj (hn.symm.trans hsize))).elim
  | chunk l first isLine hsize nonempty more ih =>
      simp only [ChunkedBody.wire, append_assoc] at hup
      rw [ChunkedBody.data, length_append]
      obtain ⟨n, hn, -, hcases⟩ := h.cases_line isLine hup
      obtain rfl := Except.ok.inj (hsize.symm.trans hn)
      rcases hcases with
        ⟨hbeyond, -⟩ | ⟨first', wire', sizes', more', hlength, -, hexceeds, -, -, hbehind⟩
      · omega
      · obtain ⟨rfl, hrest⟩ := append_inj hbehind hlength.symm
        have hmore := ih hexceeds (append_cancel_left hrest).symm
        omega

/-! ## Other ends of a step -/

namespace Move

section

variable {α β : Type} {m : Move α} {t t₁ t' : Transfer} {s : Stop} {V W : Bytes → Prop}
  {done done' : α → Transfer → Prop} {stopped stopped' : Stop → Transfer → Prop}

/-- One description of how a step is done, another one of how it stops. -/
theorem Ends.mix (h : m.Ends t done stopped) (h' : m.Ends t done' stopped') :
    m.Ends t done stopped' := by
  unfold Ends at *
  split <;> simp_all

theorem Ends.mono_stopped (h : m.Ends t done stopped) (hs : ∀ s t', stopped s t' → stopped' s t') :
    m.Ends t done stopped' :=
  h.mono (fun _ _ h => h) hs

/-- A step stopped, but not because of the limit. What it had written by then is of the kind `W`. -/
structure Falters (W : Bytes → Prop) (t : Transfer) (s : Stop) (t' : Transfer) : Prop where
  cause : ∀ limit, s ≠ .failed (.tooLarge limit)
  effect : ∃ part kept, Effect part kept t t' ∧ W part

theorem Falters.mono (h : Falters V t s t') (hW : ∀ part, V part → W part) : Falters W t s t' :=
  let ⟨part, kept, he, hV⟩ := h.effect
  ⟨h.cause, part, kept, he, hW part hV⟩

theorem Falters.after {written data : Bytes} (he : Effect written data t t₁)
    (h : Falters V t₁ s t') (hW : ∀ part, V part → W (written ++ part)) : Falters W t s t' := by
  obtain ⟨part, kept, he', hV⟩ := h.effect
  exact ⟨h.cause, _, _, he.trans he', hW part hV⟩

/-- What goes on behind a read stops for its own reasons. -/
theorem Falters.behind (he : Effect [] [] t t₁) (h : Falters W t₁ s t') : Falters W t s t' :=
  h.after he fun _ hW => hW

theorem Falters.here (he : Effect [] [] t t') (hcause : ∀ limit, s ≠ .failed (.tooLarge limit))
    (hW : W []) : Falters W t s t' :=
  ⟨hcause, [], [], he, hW⟩

end

variable {t : Transfer}

theorem sink_of_put {bytes : Bytes} {s : Stop} {t' : Transfer} (h : put bytes t = .error s t') :
    t'.sink = (t.sink.write bytes).2 := by
  unfold put at h
  split at h <;> cases h
  simp [*]

/-- A write that fails leaves something unwritten. -/
theorem put_falters (bytes : Bytes) (t : Transfer) :
    (put bytes).Ends t (fun _ _ => True)
      (Falters (fun part => part <+: bytes ∧ part ≠ bytes) t) := by
  cases hput : put bytes t with
  | ok _ t' => simp only [Ends, hput]
  | error s t' =>
      obtain ⟨rfl, hrefused, part, hfront, heffect⟩ := (put_spec bytes t).of_error hput
      simp only [Ends, hput]
      refine ⟨fun limit h => ?_, part, [], heffect, hfront, ?_⟩
      · cases h
      · rintro rfl
        have hreceived := Peer.received_write t.sink part
        rw [← sink_of_put hput, heffect.received, append_cancel_left_eq] at hreceived
        refine hrefused fun room hroom => ?_
        simp only [Peer.accepted, hroom] at hreceived
        exact take_eq_self_iff part |>.mp hreceived.symm

theorem pass_falters (bytes : Bytes) (t : Transfer) :
    (pass bytes).Ends t (fun _ _ => True) (Falters (fun part => part <+: bytes) t) := by
  refine (put_falters bytes t).bind (fun _ t₁ _ => ?_) fun _ _ h => h.mono fun _ hW => hW.1
  exact (keep_spec bytes t₁).mono (fun _ _ _ => trivial) fun _ _ h => h.elim

/-- Faults that have nothing to do with the limit. -/
def Mild (onEnd : Fault) (onFailure : String → Fault) : Prop :=
  ∀ limit, onEnd ≠ .tooLarge limit ∧ ∀ reason, onFailure reason ≠ .tooLarge limit

theorem mild_chunks : Mild .chunksCut .readFailed := fun _ => ⟨nofun, fun _ => nofun⟩

theorem mild_fixed : Mild .bodyCut fun _ => .bodyUnread := fun _ => ⟨nofun, fun _ => nofun⟩

section

variable {onEnd : Fault} {onFailure : String → Fault}

theorem demand_falters (hmild : Mild onEnd onFailure) {size : ℕ} (hs : 0 < size) (t : Transfer) :
    (demand onEnd onFailure size).Ends t (fun _ _ => True) (Falters (· = []) t) := by
  refine (next_spec hs t).bind (fun reading t₁ h₁ => ?_) fun _ _ h => h.elim
  obtain ⟨⟨he, -⟩, -⟩ := h₁
  cases reading with
  | bytes bytes => exact .pure trivial
  | ended => exact .fail (.here he (fun limit h => (hmild limit).1 (Stop.failed.inj h)) rfl)
  | failed reason =>
      exact .fail (.here he (fun limit h => (hmild limit).2 reason (Stop.failed.inj h)) rfl)
  | never => exact .wait (.here he (fun _ => nofun) rfl)

theorem fill_falters (t : Transfer) : fill.Ends t (fun _ _ => True) (Falters (· = []) t) :=
  (demand_falters mild_chunks (by decide) t).bind (fun _ _ _ => trivial) fun _ _ h => h

theorem heldLine?_falters (t : Transfer) :
    heldLine?.Ends t (fun _ _ => True) (Falters (· = []) t) := by
  refine .get ?_
  split
  · trivial
  · split
    · exact .fail (.here (.refl t) (fun _ => nofun) rfl)
    · trivial

theorem lineWithin_falters (tries : ℕ) (t : Transfer) :
    (lineWithin tries).Ends t (fun _ _ => True) (Falters (· = []) t) := by
  induction tries generalizing t with
  | zero => exact .wait (.here (.refl t) (fun _ => nofun) rfl)
  | succ tries ih =>
      refine ((heldLine?_spec t).mix (heldLine?_falters t)).bind (fun found t₁ h₁ => ?_)
        fun _ _ h => h
      rcases h₁ with ⟨l, rfl, -⟩ | ⟨rfl, rfl, -⟩
      · exact .pure trivial
      · refine ((fill_spec t₁).mix (fill_falters t₁)).bind (fun _ t₂ h₂ => ?_) fun _ _ h => h
        exact (ih t₂).mono_stopped fun _ _ h => .behind h₂.1.toEffect h

/-- A line is moved whole, or not to its end. -/
theorem moveLine_falters (t : Transfer) :
    moveLine.Ends t (fun _ _ => True)
      (Falters (fun part => ∃ l, IsLine l ∧ part <+: l ∧ part ≠ l) t) := by
  refine ((line_spec t).mix (lineWithin_falters _ t)).bind (fun l t₁ h₁ => ?_) fun _ _ h => ?_
  · refine (put_falters l t₁).bind (fun _ _ _ => trivial) fun _ _ h => .behind h₁.1.toEffect ?_
    exact h.mono fun part hW => ⟨l, h₁.2, hW⟩
  · refine h.mono ?_
    rintro part rfl
    exact ⟨Bytes.crlf, isLine_crlf, nil_prefix, nofun⟩

theorem trailers_falters (lines : ℕ) (t : Transfer) :
    (trailers lines).Ends t (fun _ _ => True) (Falters (fun _ => True) t) := by
  induction lines generalizing t with
  | zero => exact .wait (.here (.refl t) (fun _ => nofun) trivial)
  | succ lines ih =>
      refine ((moveLine_spec t).mix (moveLine_falters t)).bind (fun l t₁ h₁ => ?_)
        fun _ _ h => h.mono fun _ _ => trivial
      split
      · exact .pure trivial
      · exact (ih t₁).mono_stopped fun _ _ h => h.after h₁.1.toEffect fun _ hW => hW

theorem pairWithin_falters (tries : ℕ) (t : Transfer) :
    (pairWithin tries).Ends t (fun _ _ => True) (Falters (· = []) t) := by
  induction tries generalizing t with
  | zero => exact .wait (.here (.refl t) (fun _ => nofun) rfl)
  | succ tries ih =>
      refine .get ?_
      split
      · trivial
      · refine ((fill_spec t).mix (fill_falters t)).bind (fun _ t₁ h₁ => ?_) fun _ _ h => h
        exact (ih t₁).mono_stopped fun _ _ h => .behind h₁.1.toEffect h

theorem chunkEnd_falters (t : Transfer) :
    chunkEnd.Ends t (fun _ _ => True) (Falters (·.length ≤ 2) t) := by
  refine ((pairWithin_spec 3 t (by decide) (Nat.le_add_right _ _)).mix
    (pairWithin_falters 3 t)).bind (fun p t₁ h₁ => ?_) fun _ _ h => h.mono ?_
  · split
    · refine (put_falters p t₁).mono_stopped fun _ _ h => .behind h₁.1.toEffect ?_
      exact h.mono fun part hW => h₁.2 ▸ hW.1.length_le
    · exact .fail (.here h₁.1.toEffect (fun _ => nofun) (Nat.zero_le 2))
  · rintro part rfl
    exact Nat.zero_le 2

/-- No more is written than is to be moved. -/
theorem stream_falters (hmild : Mild onEnd onFailure) (reads n : ℕ) (t : Transfer) :
    (stream onEnd onFailure reads n).Ends t (fun _ _ => True) (Falters (·.length ≤ n) t) := by
  induction reads generalizing n t with
  | zero =>
      cases n with
      | zero => exact .pure trivial
      | succ n => exact .wait (.here (.refl t) (fun _ => nofun) (Nat.zero_le _))
  | succ reads ih =>
      cases n with
      | zero => exact .pure trivial
      | succ n =>
          have hsize : 0 < min dataRead (n + 1) := Nat.lt_min.mpr ⟨by decide, n.succ_pos⟩
          refine ((demand_spec onEnd onFailure hsize t).mix (demand_falters hmild hsize t)).bind
            (fun bytes t₁ h₁ => ?_) fun _ _ h => h.mono ?_
          · obtain ⟨he, -, -, hle, -⟩ := h₁
            have hle : bytes.length ≤ n + 1 := hle.trans (Nat.min_le_right _ _)
            refine ((pass_spec bytes t₁).mix (pass_falters bytes t₁)).bind (fun _ t₂ h₂ => ?_)
              fun _ _ h => .behind he (h.mono fun part hW => hW.length_le.trans hle)
            refine (ih (n + 1 - bytes.length) t₂).mono_stopped fun _ _ h => ?_
            refine h.after (he.trans h₂.1.toEffect) fun part hW => ?_
            rw [nil_append, length_append]
            omega
          · rintro part rfl
            exact Nat.zero_le _

theorem data_falters (hmild : Mild onEnd onFailure) (n : ℕ) (t : Transfer) :
    (data onEnd onFailure n).Ends t (fun _ _ => True) (Falters (·.length ≤ n) t) := by
  have hfront : (t.held.take n).length ≤ n := length_take_le n _
  have hpass : (passHeld n).Ends t (fun _ _ => True) (Falters (·.length ≤ n) t) := by
    refine (takeHeld_spec n t).bind (fun front t₁ h₁ => ?_) fun _ _ h => h.elim
    obtain ⟨ha, rfl, -⟩ := h₁
    split
    · exact .pure trivial
    · refine (pass_falters _ t₁).bind (fun _ _ _ => trivial) fun _ _ h => ?_
      exact .behind ha.toEffect (h.mono fun part hW => hW.length_le.trans hfront)
  have hspec : (passHeld n).Ends t _ (Lacks (AllKept n) _ t) := passHeld_spec n t n hfront
  refine (hspec.mix hpass).bind (fun moved t₁ h₁ => ?_) fun _ _ h => h
  obtain ⟨rfl, -, ha⟩ := h₁
  refine (stream_falters hmild n _ t₁).mono_stopped fun _ _ h => ?_
  refine h.after ha.toEffect fun part hW => ?_
  rw [length_append]
  omega

theorem chunkData_falters (size : ℕ) (t : Transfer) :
    (chunkData size).Ends t (fun _ _ => True) (Falters (·.length ≤ size + 2) t) := by
  refine ((data_spec _ _ size t).mix (data_falters mild_chunks size t)).bind (fun _ t₁ h₁ => ?_)
    fun _ _ h => h.mono fun part hW => hW.trans (Nat.le_add_right _ _)
  obtain ⟨moved, hlen, ha⟩ := h₁
  refine (chunkEnd_falters t₁).mono_stopped fun _ _ h => ?_
  refine h.after ha.toEffect fun part hW => ?_
  rw [length_append]
  omega

end

end Move

/-! ## Where chunks break off -/

namespace Move

/-- What was moved and kept of chunks that broke off, with so much left of the limit. -/
inductive Breaks (limit : ℕ) : ℕ → Bytes → Bytes → Stop → Prop
  /-- A line was not moved to its end. -/
  | line {budget : ℕ} {l part kept : Bytes} {s : Stop} (isLine : IsLine l) (hpart : part <+: l)
      (hne : part ≠ l) (cause : ∀ most, s ≠ .failed (.tooLarge most)) :
      Breaks limit budget part kept s
  /-- A line did not announce a size. -/
  | size {budget : ℕ} {l : Bytes} {fault : Fault} (isLine : IsLine l)
      (hsize : chunkSize l = .error fault) : Breaks limit budget l [] (.failed fault)
  /-- Something was missing behind the last chunk. -/
  | trailers {budget : ℕ} {l part kept : Bytes} {s : Stop} (isLine : IsLine l)
      (hsize : chunkSize l = .ok 0) (cause : ∀ most, s ≠ .failed (.tooLarge most)) :
      Breaks limit budget (l ++ part) kept s
  | exceeding {budget size : ℕ} {l : Bytes} (isLine : IsLine l) (hsize : chunkSize l = .ok size)
      (beyond : budget < size) : Breaks limit budget l [] (.failed (.tooLarge limit))
  /-- Something was missing of a chunk. -/
  | data {budget size : ℕ} {l part kept : Bytes} {s : Stop} (isLine : IsLine l)
      (hsize : chunkSize l = .ok size) (nonempty : size ≠ 0) (admitted : size ≤ budget)
      (hpart : part.length ≤ size + 2) (cause : ∀ most, s ≠ .failed (.tooLarge most)) :
      Breaks limit budget (l ++ part) kept s
  | behind {budget : ℕ} {l data part kept : Bytes} {s : Stop} (isLine : IsLine l)
      (hsize : chunkSize l = .ok data.length) (nonempty : data ≠ [])
      (admitted : data.length ≤ budget) (more : Breaks limit (budget - data.length) part kept s) :
      Breaks limit budget (l ++ (data ++ (Bytes.crlf ++ part))) (data ++ kept) s

theorem chunkSize_ne_tooLarge {line : Bytes} {fault : Fault} (h : chunkSize line = .error fault)
    (limit : ℕ) : fault ≠ .tooLarge limit := by
  rw [fault_of_chunkSize h]
  split <;> exact nofun

/-- A line that was not moved to its end holds no data. -/
theorem dataOf_of_front {l part : Bytes} (hl : IsLine l) (hpart : part <+: l) :
    ChunkedBody.dataOf part = [] := by
  cases hcut : Bytes.cutAfter? Bytes.crlf part with
  | none =>
      unfold ChunkedBody.dataOf
      split
      · rfl
      · rename_i hsome
        cases hcut.symm.trans hsome
  | some cut =>
      obtain ⟨l', rest⟩ := cut
      obtain ⟨rfl, hl'⟩ := (Bytes.cutAfter?_eq_some_iff crlf_ne_nil).mp hcut
      obtain ⟨more, hmore⟩ := hpart
      -- the line is all there is
      have hsame : l' ++ (rest ++ more) = l ++ [] := by simpa using hmore
      obtain ⟨rfl, hnil⟩ := hl'.unique hl crlf_ne_nil hsame
      obtain ⟨rfl, -⟩ := append_eq_nil_iff.mp hnil
      cases hsize : chunkSize l' with
      | error fault => exact ChunkedBody.dataOf_line hl' (fun _ h => by cases hsize.symm.trans h) _
      | ok size =>
          cases size with
          | zero =>
              refine ChunkedBody.dataOf_line hl' (fun n h => ?_) _
              exact (Except.ok.inj (hsize.symm.trans h)).symm
          | succ size =>
              rw [ChunkedBody.dataOf_chunk hl' hsize (Nat.succ_ne_zero size)]
              simp [ChunkedBody.dataOf_nil]

variable {limit budget : ℕ} {part kept : Bytes} {s : Stop}

/-- The data that was moved is within the limit, wherever the chunks broke off. -/
theorem Breaks.length_dataOf_le (h : Breaks limit budget part kept s) :
    (ChunkedBody.dataOf part).length ≤ budget := by
  induction h with
  | line isLine hpart => simp [dataOf_of_front isLine hpart]
  | size isLine | exceeding isLine => simp [dataOf_of_front isLine prefix_rfl]
  | @trailers budget l part kept s isLine hsize cause =>
      have hnone := ChunkedBody.dataOf_line isLine
        (fun n hn => (Except.ok.inj (hsize.symm.trans hn)).symm) part
      simp [hnone]
  | @data budget size l part kept s isLine hsize nonempty admitted hpart cause =>
      rw [ChunkedBody.dataOf_chunk isLine hsize nonempty, drop_eq_nil_of_le hpart,
        ChunkedBody.dataOf_nil, append_nil]
      exact (length_take_le _ _).trans admitted
  | @behind budget l data part kept s isLine hsize nonempty admitted more ih =>
      have hpos : data.length ≠ 0 := fun h => nonempty (length_eq_zero_iff.mp h)
      rw [ChunkedBody.dataOf_chunk isLine hsize hpos, take_left, drop_length_add_append,
        length_append]
      have hbehind : (Bytes.crlf ++ part).drop 2 = part := rfl
      rw [hbehind]
      omega

/-- What breaks off because of the limit ends with the line that exceeds it. -/
theorem Breaks.exceeds (h : Breaks limit budget part kept s) {most : ℕ}
    (hs : s = .failed (.tooLarge most)) :
    ∃ wire line sizes size, Exceeds budget wire line sizes size kept ∧ part = wire ++ line := by
  induction h with
  | line _ _ _ cause | trailers _ _ cause | data _ _ _ _ _ cause => exact (cause most hs).elim
  | size _ hsize => exact (chunkSize_ne_tooLarge hsize most (Stop.failed.inj hs)).elim
  | @exceeding budget size l isLine hsize beyond =>
      refine ⟨[], l, [], size, ⟨.nil, announcesSize_iff.mpr ⟨isLine, hsize⟩, Nat.zero_le _, ?_⟩, rfl⟩
      simpa using beyond
  | @behind budget l data part kept s isLine hsize nonempty admitted more ih =>
      obtain ⟨wire, line, sizes, size, hexceeds, rfl⟩ := ih hs
      exact ⟨_, line, _, size,
        .cons (announcesSize_iff.mpr ⟨isLine, hsize⟩) nonempty admitted hexceeds, by simp⟩

/-- What goes on as far as to a line that exceeds the limit breaks off there, because of it. -/
theorem Breaks.of_reached (h : Breaks limit budget part kept s) {wire line data : Bytes}
    {sizes : List ℕ} {size : ℕ} (hexceeds : Exceeds budget wire line sizes size data)
    (hreached : wire ++ line <+: part) :
    s = .failed (.tooLarge limit) ∧ part = wire ++ line ∧ kept = data := by
  induction h generalizing wire data sizes with
  | @line budget l part kept s isLine hpart hne cause =>
      obtain ⟨rest, hrest⟩ := hreached.trans hpart
      have hfirst : wire ++ (line ++ rest) = l ++ [] := by simpa using hrest
      obtain ⟨n, -, -, hcases⟩ := hexceeds.cases_line isLine hfirst
      rcases hcases with ⟨-, rfl, rfl, -⟩ | ⟨first, wire', -, -, -, -, -, -, -, hnil⟩
      · exact (hne (hpart.eq_of_length_le hreached.length_le)).elim
      · exact absurd hnil (by simp [Bytes.crlf])
  | @size budget l fault isLine hsize =>
      obtain ⟨rest, hrest⟩ := hreached
      have hfirst : wire ++ (line ++ rest) = l ++ [] := by simpa using hrest
      obtain ⟨n, hn, -⟩ := hexceeds.cases_line isLine hfirst
      cases hsize.symm.trans hn
  | @trailers budget l part kept s isLine hsize cause =>
      obtain ⟨rest, hrest⟩ := hreached
      rw [append_assoc] at hrest
      obtain ⟨n, hn, hne, -⟩ := hexceeds.cases_line isLine hrest
      exact (hne (Except.ok.inj (hn.symm.trans hsize))).elim
  | @exceeding budget size' l isLine hsize beyond =>
      obtain ⟨rest, hrest⟩ := hreached
      have hfirst : wire ++ (line ++ rest) = l ++ [] := by simpa using hrest
      obtain ⟨n, hn, -, hcases⟩ := hexceeds.cases_line isLine hfirst
      obtain rfl := Except.ok.inj (hsize.symm.trans hn)
      rcases hcases with ⟨-, rfl, rfl, rfl⟩ | ⟨-, -, -, -, -, hle, -⟩
      · exact ⟨rfl, rfl, rfl⟩
      · omega
  | @data budget size' l part kept s isLine hsize nonempty admitted hpart cause =>
      obtain ⟨rest, hrest⟩ := hreached
      rw [append_assoc] at hrest
      obtain ⟨n, hn, -, hcases⟩ := hexceeds.cases_line isLine hrest
      obtain rfl := Except.ok.inj (hsize.symm.trans hn)
      rcases hcases with ⟨hbeyond, -⟩ | ⟨first, wire', -, -, hlength, -, -, -, -, rfl⟩
      · omega
      · -- the chunk is whole, and there is a line behind it
        have hpos := hexceeds.announced.isLine.length_pos
        simp only [length_append, Bytes.crlf, length_cons, length_nil] at hpart
        omega
  | @behind budget l moved part kept s isLine hsize nonempty admitted more ih =>
      obtain ⟨rest, hrest⟩ := hreached
      rw [append_assoc] at hrest
      obtain ⟨n, hn, -, hcases⟩ := hexceeds.cases_line isLine hrest
      obtain rfl := Except.ok.inj (hsize.symm.trans hn)
      rcases hcases with
        ⟨hbeyond, -⟩ | ⟨first, wire', sizes', more', hlength, -, hexceeds', rfl, rfl, hbehind⟩
      · omega
      · obtain ⟨rfl, hrest'⟩ := append_inj hbehind hlength.symm
        have hreached' : wire' ++ line <+: part := by
          refine ⟨rest, ?_⟩
          rw [append_assoc]
          exact (append_cancel_left hrest').symm
        obtain ⟨hs, rfl, rfl⟩ := ih hexceeds' hreached'
        exact ⟨hs, by simp, rfl⟩

theorem within_exceeded (limit n : ℕ) (t : Transfer) :
    (within (some limit) n).Ends t (fun _ t' => t' = t ∧ n ≤ limit)
      (fun s t' => t' = t ∧ s = .failed (.tooLarge limit) ∧ limit < n) := by
  simp only [within]
  split
  · rename_i hlt
    exact .fail ⟨rfl, rfl, hlt⟩
  · rename_i hle
    exact .pure ⟨rfl, Nat.le_of_not_lt hle⟩

/-- However the sink refuses and the source ends, chunks break off as described. -/
theorem chunks_breaks (limit count total : ℕ) (t : Transfer) (htotal : total ≤ limit)
    (hcount : t.upcoming.bytes.length < count) :
    (chunks (some limit) count total).Ends t (fun _ _ => True) (fun s t' =>
      ∃ part kept, Effect part kept t t' ∧ Breaks limit (limit - total) part kept s) := by
  induction count generalizing total t with
  | zero => cases hcount
  | succ count ih =>
      refine ((moveLine_spec t).mix (moveLine_falters t)).bind (fun l t₁ h₁ => ?_) fun s t₁ h => ?_
      · obtain ⟨ha, hl⟩ := h₁
        have hlt := ha.length_lt hl
        split
        · rename_i fault hsize
          exact .fail ⟨l, [], ha.toEffect, .size hl hsize⟩
        · rename_i hsize
          refine (trailers_falters (count + 1) t₁).bind (fun _ _ _ => trivial) fun s t₂ h => ?_
          obtain ⟨part, kept, he, -⟩ := h.effect
          exact ⟨_, _, ha.toEffect.trans he, .trailers hl hsize h.cause⟩
        · rename_i size hpos hsize
          have hne : size ≠ 0 := hpos
          refine (within_exceeded limit (total + size) t₁).bind (fun _ t₂ h₂ => ?_)
            fun s t₂ h₂ => ?_
          · obtain ⟨rfl, hle⟩ := h₂
            refine ((chunkData_spec size t₂).mix (chunkData_falters size t₂)).bind
              (fun _ t₃ h₃ => ?_) fun s t₃ h => ?_
            · obtain ⟨moved, rfl, ha₃⟩ := h₃
              have hmoved : moved ≠ [] := fun h => hne (by rw [h, length_nil])
              have hlen := congrArg length ha₃.upcoming_bytes
              rw [length_append] at hlen
              refine (ih (total + moved.length) t₃ hle (by omega)).mono_stopped fun s t₄ h₄ => ?_
              obtain ⟨part, kept, he, hbreaks⟩ := h₄
              rw [← Nat.sub_sub] at hbreaks
              refine ⟨_, _, ha.toEffect.trans (ha₃.toEffect.trans he), ?_⟩
              simpa using Breaks.behind hl hsize hmoved (by omega) hbreaks
            · obtain ⟨part, kept, he, hlength⟩ := h.effect
              exact ⟨_, _, ha.toEffect.trans he,
                .data hl hsize hne (by omega) hlength h.cause⟩
          · obtain ⟨rfl, rfl, hlt⟩ := h₂
            exact ⟨l, [], ha.toEffect, .exceeding hl hsize (by omega)⟩
      · obtain ⟨part, kept, he, l, hl, hpart, hne⟩ := h.effect
        exact ⟨part, kept, he, .line hl hpart hne h.cause⟩

/-- If a line is upcoming that exceeds the limit, no line is too long to be waited for, and the sink
takes all that is in front of the data it announces, then just this is moved. -/
theorem chunks_exceeded {limit : ℕ} (count total : ℕ) (t : Transfer) {wire line data rest : Bytes}
    {sizes : List ℕ} {size : ℕ} (htotal : total ≤ limit)
    (hcount : t.upcoming.bytes.length < count) (hwatch : t.Watched)
    (hfit : ChunksFit t.upcoming.bytes)
    (hexceeds : Exceeds (limit - total) wire line sizes size data)
    (hup : t.upcoming.bytes = wire ++ (line ++ rest))
    (hacc : t.sink.Accepts (wire ++ line).length) :
    (chunks (some limit) count total).Ends t (fun _ _ => False) (fun s t' =>
      s = .failed (.tooLarge limit) ∧ Effect (wire ++ line) data t t') := by
  induction count generalizing total t wire data sizes with
  | zero => cases hcount
  | succ count ih =>
      refine (moveLine_spec t).bind (fun l t₁ h₁ => ?_) fun s t₁ h₁ => ?_
      · obtain ⟨ha, hl⟩ := h₁
        have hlt := ha.length_lt hl
        have hfirst : wire ++ (line ++ rest) = l ++ t₁.upcoming.bytes := by
          rw [← hup, ha.upcoming_bytes]
        obtain ⟨n, hn, hne, hcases⟩ := hexceeds.cases_line hl hfirst
        split
        · rename_i fault hfault
          cases hn.symm.trans hfault
        · rename_i hzero
          exact (hne (Except.ok.inj (hn.symm.trans hzero))).elim
        · rename_i size' hpos hsize
          obtain rfl := Except.ok.inj (hn.symm.trans hsize)
          refine (within_exceeded limit (total + n) t₁).bind (fun _ t₂ h₂ => ?_) fun s t₂ h₂ => ?_
          · obtain ⟨rfl, hwithin⟩ := h₂
            rcases hcases with
              ⟨hbeyond, -⟩ | ⟨first, wire', sizes', more, rfl, -, hexceeds', rfl, rfl, hbehind⟩
            · omega
            have hpart : t₂.sink.Accepts (first ++ (Bytes.crlf ++ (wire' ++ line))).length := by
              refine ha.toEffect.accepts ?_
              simpa [Nat.add_assoc] using hacc
            refine (chunkData_spec first.length t₂).bind (fun _ t₃ h₃ => ?_) fun s t₃ h₃ => ?_
            · obtain ⟨moved, hmoved, ha₃⟩ := h₃
              have hlen := congrArg length ha₃.upcoming_bytes
              rw [length_append] at hlen
              have hsame := ha₃.upcoming_bytes.symm.trans hbehind
              rw [append_assoc] at hsame
              obtain ⟨rfl, hrest⟩ := append_inj hsame hmoved
              have hnonempty : moved ≠ [] := fun h => hne (length_eq_zero_iff.mpr h)
              have hfit₃ : ChunksFit t₃.upcoming.bytes := by
                intro line' hmeets
                apply hfit line'
                rw [ha.upcoming_bytes, ha₃.upcoming_bytes]
                exact .behind hl hsize hnonempty hmeets
              rw [Nat.sub_sub] at hexceeds'
              refine (ih (total + moved.length) t₃ hwithin (by omega)
                (ha₃.watched (ha.watched hwatch)) hfit₃ hexceeds' (append_cancel_left hrest)
                (ha₃.accepts ?_)).mono_stopped fun s t₄ h₄ => ?_
              · simpa [Nat.add_assoc] using hpart
              · obtain ⟨rfl, he⟩ := h₄
                refine ⟨rfl, ?_⟩
                simpa using ha.toEffect.trans (ha₃.toEffect.trans he)
            · -- the chunk is there, and the sink takes it
              refine (h₃.missing (ha.watched hwatch) (first ++ Bytes.crlf) _ ⟨first, rfl, rfl⟩
                (by simpa using hbehind) (hpart.mono ?_)).elim
              simp only [length_append]
              omega
          · obtain ⟨rfl, rfl, hlarge⟩ := h₂
            rcases hcases with ⟨-, rfl, rfl, rfl⟩ | ⟨-, -, -, -, -, hle, -⟩
            · exact ⟨rfl, ha.toEffect⟩
            · omega
      · -- there is a first line, and the sink takes it
        obtain ⟨l, w, hl, hfirst, hle⟩ :
            ∃ l w, IsLine l ∧ wire ++ (line ++ rest) = l ++ w ∧
              l.length ≤ (wire ++ line).length := by
          cases hexceeds.chunks with
          | nil => exact ⟨line, rest, hexceeds.announced.isLine, rfl, le_rfl⟩
          | chunk announced =>
              refine ⟨_, _, announced.isLine, append_assoc .., ?_⟩
              simp only [length_append]
              omega
        have hup' := hup.trans hfirst
        have hshort := hfit.lineFits l w hup' hl
        exact (h₁.missing hwatch l w ⟨hl, hshort⟩ hup' (hacc.mono hle)).elim

end Move

/-! ## Sums in words -/

/-- The sum of two words, unless it is too large for one. -/
def checkedAdd (a b : UInt64) : Option UInt64 :=
  if a.toNat + b.toNat < UInt64.size then some (a + b) else none

/-- Sizes added up one after another as words. -/
def wordTotal (sizes : List ℕ) : Option UInt64 :=
  sizes.foldlM (fun total size => checkedAdd total (UInt64.ofNat size)) 0

theorem checkedAdd_eq (a b : UInt64) :
    (∀ c, checkedAdd a b = some c → c.toNat = a.toNat + b.toNat) ∧
      (checkedAdd a b = none → UInt64.size ≤ a.toNat + b.toNat) := by
  unfold checkedAdd
  split
  · rename_i hlt
    refine ⟨?_, nofun⟩
    rintro c ⟨⟩
    rw [UInt64.toNat_add]
    exact Nat.mod_eq_of_lt hlt
  · rename_i hge
    exact ⟨nofun, fun _ => Nat.le_of_not_lt hge⟩

/-- The words hold the sum of the sizes, or it is too large for any word. -/
theorem wordTotal_eq {sizes : List ℕ} (h : ∀ size ∈ sizes, size < UInt64.size) :
    (∀ w, wordTotal sizes = some w → w.toNat = sizes.sum) ∧
      (wordTotal sizes = none → UInt64.size ≤ sizes.sum) := by
  suffices hfold : ∀ start : UInt64,
      (∀ w, sizes.foldlM (fun total size => checkedAdd total (UInt64.ofNat size)) start = some w →
        w.toNat = start.toNat + sizes.sum) ∧
      (sizes.foldlM (fun total size => checkedAdd total (UInt64.ofNat size)) start = none →
        UInt64.size ≤ start.toNat + sizes.sum) by
    simpa [wordTotal] using hfold 0
  induction sizes with
  | nil =>
      intro start
      simp [foldlM]
  | cons size sizes ih =>
      intro start
      obtain ⟨hsome, hnone⟩ := checkedAdd_eq start (UInt64.ofNat size)
      have hsize : (UInt64.ofNat size).toNat = size :=
        UInt64.toNat_ofNat_of_lt' (h size (mem_cons_self ..))
      rw [hsize] at hsome hnone
      rw [foldlM_cons, sum_cons, ← Nat.add_assoc]
      cases hadd : checkedAdd start (UInt64.ofNat size) with
      | none => exact ⟨nofun, fun _ => (hnone hadd).trans (Nat.le_add_right _ _)⟩
      | some total =>
          rw [← hsome total hadd]
          exact ih (fun n hn => h n (mem_cons_of_mem _ hn)) total

theorem ChunksText.fits {wire data : Bytes} {sizes : List ℕ} (h : ChunksText wire sizes data) :
    ∀ size ∈ sizes, size < UInt64.size := by
  induction h with
  | nil => exact fun _ h => (not_mem_nil h).elim
  | chunk announced nonempty more ih => exact forall_mem_cons.mpr ⟨announced.fits, ih⟩

/-- It makes no difference to a limit that words can hold whether the sizes are added up as they are
or as words. -/
theorem ChunksText.exceeds_iff_words {limit size : ℕ} {wire line data : Bytes} {sizes : List ℕ}
    (h : ChunksText wire sizes data) (announced : AnnouncesSize line size)
    (hlimit : limit < UInt64.size) :
    limit < sizes.sum + size ↔ ∀ w, wordTotal (sizes ++ [size]) = some w → limit < w.toNat := by
  have hfits : ∀ n ∈ sizes ++ [size], n < UInt64.size := by
    intro n hn
    rcases mem_append.mp hn with hn | hn
    · exact h.fits n hn
    · obtain rfl := mem_singleton.mp hn
      exact announced.fits
  obtain ⟨hsome, hnone⟩ := wordTotal_eq hfits
  have hsum : (sizes ++ [size]).sum = sizes.sum + size := by simp
  rw [hsum] at hsome hnone
  cases htotal : wordTotal (sizes ++ [size]) with
  | some w => simp [← hsome w htotal]
  | none => simpa using hlimit.trans_le (hnone htotal)

end TrafficCapture.Proxy
