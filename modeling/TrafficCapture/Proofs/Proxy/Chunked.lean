import TrafficCapture.Proofs.Proxy.Steps

/-! # Chunked bodies

The grammar of chunked bodies as syntax trees, which carry their own well-formedness and are
written as the wire has them. No such body is the beginning of another, and the loop over chunks
moves exactly the bodies of the grammar. -/

namespace TrafficCapture.Proxy

open Net List

/-- A line with its end. -/
abbrev IsLine (line : Bytes) : Prop := Bytes.EndsAtFirst Bytes.crlf line

/-- The lines behind the last chunk, up to an empty one. -/
inductive Trailers where
  | blank
  | field (line : Bytes) (isLine : IsLine line) (nonblank : line ≠ Bytes.crlf) (more : Trailers)

namespace Trailers

def wire : Trailers → Bytes
  | blank => Bytes.crlf
  | field line _ _ more => line ++ more.wire

def lines : Trailers → List Bytes
  | blank => [Bytes.crlf]
  | field line _ _ more => line :: more.lines

end Trailers

/-- Chunks, each behind a line that announces its size, and a line that announces none. -/
inductive ChunkedBody where
  | last (line : Bytes) (isLine : IsLine line) (size : Move.chunkSize line = .ok 0)
      (trailers : Trailers)
  | chunk (line data : Bytes) (isLine : IsLine line)
      (size : Move.chunkSize line = .ok data.length) (nonempty : data ≠ []) (more : ChunkedBody)

namespace ChunkedBody

/-- The body as it is sent. -/
def wire : ChunkedBody → Bytes
  | last line _ _ trailers => line ++ trailers.wire
  | chunk line data _ _ _ more => line ++ (data ++ (Bytes.crlf ++ more.wire))

/-- The data of all chunks. -/
def data : ChunkedBody → Bytes
  | last .. => []
  | chunk _ data _ _ _ more => data ++ more.data

/-- The lines that announce sizes, and those behind the last chunk. -/
def lines : ChunkedBody → List Bytes
  | last line _ _ trailers => line :: trailers.lines
  | chunk line _ _ _ _ more => line :: more.lines

end ChunkedBody

/-! ## What follows a first line -/

theorem isLine_crlf : IsLine Bytes.crlf := Bytes.endsAtFirst_self (by decide)

theorem IsLine.ne_nil {line : Bytes} (h : IsLine line) : line ≠ [] := by
  rintro rfl
  exact absurd h.mark_length_le (by decide)

theorem Trailers.cases_line {l w rest : Bytes} (hl : IsLine l) (tr : Trailers)
    (h : tr.wire ++ rest = l ++ w) :
    (l = Bytes.crlf ∧ tr = blank ∧ w = rest) ∨
      ∃ hn more, tr = field l hl hn more ∧ w = more.wire ++ rest := by
  cases tr with
  | blank =>
      obtain ⟨rfl, rfl⟩ := isLine_crlf.unique hl Move.crlf_ne_nil h
      exact Or.inl ⟨rfl, rfl, rfl⟩
  | field line isLine nonblank more =>
      rw [wire, append_assoc] at h
      obtain ⟨rfl, rfl⟩ := isLine.unique hl Move.crlf_ne_nil h
      exact Or.inr ⟨nonblank, more, rfl, rfl⟩

theorem ChunkedBody.cases_line {l w : Bytes} (hl : IsLine l) (b : ChunkedBody) (rest : Bytes)
    (h : b.wire ++ rest = l ++ w) :
    (∃ hs tr, b = last l hl hs tr ∧ w = tr.wire ++ rest) ∨
      ∃ data hs hn more, b = chunk l data hl hs hn more ∧
        w = data ++ (Bytes.crlf ++ (more.wire ++ rest)) := by
  cases b with
  | last line isLine size trailers =>
      rw [wire, append_assoc] at h
      obtain ⟨rfl, rfl⟩ := isLine.unique hl Move.crlf_ne_nil h
      exact Or.inl ⟨size, trailers, rfl, rfl⟩
  | chunk line data isLine size nonempty more =>
      simp only [wire, append_assoc] at h
      obtain ⟨rfl, rfl⟩ := isLine.unique hl Move.crlf_ne_nil h
      exact Or.inr ⟨data, size, nonempty, more, rfl, rfl⟩

/-- The size that a first line announces decides what follows it. -/
theorem ChunkedBody.eq_last {l w : Bytes} (hl : IsLine l) (hsize : Move.chunkSize l = .ok 0)
    (b : ChunkedBody) (h : b.wire = l ++ w) : ∃ tr, b = last l hl hsize tr ∧ w = tr.wire := by
  rcases b.cases_line hl [] (by rw [h, append_nil]) with
    ⟨_, tr, rfl, hw⟩ | ⟨data, hs, hn, -, -, -⟩
  · exact ⟨tr, rfl, by simpa using hw⟩
  · rw [hsize] at hs
    exact (hn (length_eq_zero_iff.mp (Except.ok.inj hs).symm)).elim

theorem ChunkedBody.eq_chunk {l w : Bytes} {size : ℕ} (hl : IsLine l)
    (hsize : Move.chunkSize l = .ok size) (hpos : size ≠ 0) (b : ChunkedBody)
    (h : b.wire = l ++ w) : ∃ data hs hn more, b = chunk l data hl hs hn more ∧
      data.length = size ∧ w = data ++ (Bytes.crlf ++ more.wire) := by
  rcases b.cases_line hl [] (by rw [h, append_nil]) with
    ⟨hs, -, -, -⟩ | ⟨data, hs, hn, more, rfl, hw⟩
  · rw [hsize] at hs
    exact (hpos (Except.ok.inj hs)).elim
  · refine ⟨data, hs, hn, more, rfl, ?_, by simpa using hw⟩
    rw [hsize] at hs
    exact (Except.ok.inj hs).symm

theorem ChunkedBody.exists_size {l w : Bytes} (hl : IsLine l) (b : ChunkedBody)
    (h : b.wire = l ++ w) : ∃ size, Move.chunkSize l = .ok size := by
  rcases b.cases_line hl [] (by rw [h, append_nil]) with ⟨hs, -⟩ | ⟨_, hs, -⟩
  · exact ⟨_, hs⟩
  · exact ⟨_, hs⟩

theorem Trailers.unique (tr tr' : Trailers) {rest rest' : Bytes}
    (h : tr.wire ++ rest = tr'.wire ++ rest') : tr = tr' := by
  induction tr generalizing tr' with
  | blank =>
      rcases tr'.cases_line isLine_crlf h.symm with ⟨-, rfl, -⟩ | ⟨hn, -, -, -⟩
      · rfl
      · exact (hn rfl).elim
  | field line isLine nonblank more ih =>
      rw [wire, append_assoc] at h
      rcases tr'.cases_line isLine h.symm with ⟨hcrlf, -, -⟩ | ⟨_, more', rfl, hw⟩
      · exact (nonblank hcrlf).elim
      · rw [ih more' hw]

/-- Bytes begin with at most one chunked body. -/
theorem ChunkedBody.unique (b b' : ChunkedBody) {rest rest' : Bytes}
    (h : b.wire ++ rest = b'.wire ++ rest') : b = b' := by
  induction b generalizing b' with
  | last line isLine size trailers =>
      rw [wire, append_assoc] at h
      rcases b'.cases_line isLine _ h.symm with ⟨_, tr, rfl, hw⟩ | ⟨data, hs, hn, -, -, -⟩
      · rw [trailers.unique tr hw]
      · rw [size] at hs
        exact (hn (length_eq_zero_iff.mp (Except.ok.inj hs).symm)).elim
  | chunk line data isLine size nonempty more ih =>
      simp only [wire, append_assoc] at h
      rcases b'.cases_line isLine _ h.symm with ⟨hs, -, -, -⟩ | ⟨data', hs, _, more', rfl, hw⟩
      · rw [size] at hs
        exact (nonempty (length_eq_zero_iff.mp (Except.ok.inj hs))).elim
      · have hlen : data.length = data'.length := by
          rw [size] at hs
          exact Except.ok.inj hs
        obtain ⟨rfl, hmore⟩ := append_inj hw hlen
        rw [ih more' (append_cancel_left hmore)]

/-! ## Bodies that break off -/

namespace ChunkedBody

/-- The data in what has come of a chunked body. -/
def dataOf (part : Bytes) : Bytes :=
  match _hcut : Bytes.cutAfter? Bytes.crlf part with
  | none => []
  | some (line, rest) =>
      match Move.chunkSize line with
      | .ok (size + 1) => rest.take (size + 1) ++ dataOf (rest.drop (size + 1 + 2))
      | _ => []
termination_by part.length
decreasing_by
  obtain ⟨rfl, hline⟩ := (Bytes.cutAfter?_eq_some_iff Move.crlf_ne_nil).mp _hcut
  have hpos := length_pos_iff.mpr (IsLine.ne_nil hline)
  rw [length_drop, length_append]
  omega

theorem dataOf_nil : dataOf [] = [] := by
  unfold dataOf
  split
  · rfl
  · rename_i line rest hcut
    obtain ⟨hnil, hline⟩ := (Bytes.cutAfter?_eq_some_iff Move.crlf_ne_nil).mp hcut
    exact (IsLine.ne_nil hline (append_eq_nil_iff.mp hnil.symm).1).elim

theorem cutAfter?_line {l : Bytes} (hl : IsLine l) (rest : Bytes) :
    Bytes.cutAfter? Bytes.crlf (l ++ rest) = some (l, rest) :=
  (Bytes.cutAfter?_eq_some_iff Move.crlf_ne_nil).mpr ⟨rfl, hl⟩

/-- Nothing is data behind a line that announces none. -/
theorem dataOf_line {l : Bytes} (hl : IsLine l)
    (hsize : ∀ size, Move.chunkSize l = .ok size → size = 0) (rest : Bytes) :
    dataOf (l ++ rest) = [] := by
  unfold dataOf
  split
  · rfl
  · rename_i line rest' hcut
    obtain ⟨rfl, -⟩ := Prod.mk.inj (Option.some.inj (hcut.symm.trans (cutAfter?_line hl rest)))
    split
    · rename_i size hok
      cases hsize _ hok
    · rfl

theorem dataOf_chunk {l : Bytes} {size : ℕ} (hl : IsLine l) (hsize : Move.chunkSize l = .ok size)
    (hpos : size ≠ 0) (rest : Bytes) :
    dataOf (l ++ rest) = rest.take size ++ dataOf (rest.drop (size + 2)) := by
  obtain ⟨size, rfl⟩ := Nat.exists_eq_succ_of_ne_zero hpos
  rw [dataOf]
  split
  · rename_i hcut
    cases hcut.symm.trans (cutAfter?_line hl rest)
  · rename_i line rest' hcut
    obtain ⟨rfl, rfl⟩ := Prod.mk.inj (Option.some.inj (hcut.symm.trans (cutAfter?_line hl rest)))
    simp only [hsize]

theorem dataOf_wire (b : ChunkedBody) (rest : Bytes) : dataOf (b.wire ++ rest) = b.data := by
  induction b with
  | last line isLine size trailers =>
      rw [wire, append_assoc]
      refine dataOf_line isLine (fun n hn => ?_) _
      rw [size] at hn
      exact (Except.ok.inj hn).symm
  | chunk line data isLine size nonempty more ih =>
      have hpos : data.length ≠ 0 := fun h => nonempty (length_eq_zero_iff.mp h)
      have hbehind : (data ++ (Bytes.crlf ++ (more.wire ++ rest))).drop (data.length + 2) =
          more.wire ++ rest := by
        rw [drop_length_add_append]
        rfl
      simp only [wire, append_assoc]
      rw [dataOf_chunk isLine size hpos, take_left, hbehind, ih]
      rfl

end ChunkedBody

/-! ## The loops -/

/-- Lines that are short enough to be waited for. -/
def ShortLines (lines : List Bytes) : Prop := ∀ line ∈ lines, line.length ≤ Move.lineLimit

instance (lines : List Bytes) : Decidable (ShortLines lines) :=
  inferInstanceAs (Decidable (∀ line ∈ lines, line.length ≤ Move.lineLimit))

theorem IsLine.length_pos {line : Bytes} (h : IsLine line) : 0 < line.length :=
  length_pos_iff.mpr h.ne_nil

theorem Advance.length_lt {l : Bytes} {t t' : Transfer} (h : Advance l l [] t t') (hl : IsLine l) :
    t'.upcoming.bytes.length < t.upcoming.bytes.length := by
  have := hl.length_pos
  rw [h.upcoming_bytes, length_append]
  omega

namespace Move

theorem trailers_spec (lines : ℕ) (t : Transfer) (hlines : t.upcoming.bytes.length < lines) :
    (trailers lines).Ends t (fun _ t' => ∃ tr : Trailers, Advance tr.wire tr.wire [] t t')
      (Lacks (fun _ kept => kept = [])
        (fun w => ∃ tr : Trailers, ShortLines tr.lines ∧ w = tr.wire) t) := by
  induction lines generalizing t with
  | zero => cases hlines
  | succ lines ih =>
      refine (moveLine_spec t).bind (fun l t₁ h₁ => ?_) fun s t₁ h₁ => ?_
      · obtain ⟨ha, hl⟩ := h₁
        split
        · rename_i hblank
          obtain rfl := beq_iff_eq.mp hblank
          exact .pure ⟨.blank, ha⟩
        · rename_i hfield
          have hn : l ≠ Bytes.crlf := fun h => hfield (beq_iff_eq.mpr h)
          have hlt := ha.length_lt hl
          refine (ih t₁ (by omega)).mono (fun _ t₂ h₂ => ?_) fun s t₂ h₂ => ?_
          · obtain ⟨tr, ha₂⟩ := h₂
            exact ⟨.field l hl hn tr, ha.trans ha₂⟩
          · refine .after ha h₂ (fun _ _ hkept => hkept) ?_
            rintro w rest ⟨tr, hshort, rfl⟩ hup
            rw [ha.upcoming_bytes] at hup
            rcases tr.cases_line hl hup.symm with ⟨h, -, -⟩ | ⟨_, more, rfl, -⟩
            · exact (hn h).elim
            · exact ⟨more.wire, rfl, more, fun l hl => hshort l (mem_cons_of_mem _ hl), rfl⟩
      · refine h₁.of_front (fun _ _ hnothing => hnothing.kept_eq) ?_
        rintro w rest ⟨tr, hshort, rfl⟩ -
        cases tr with
        | blank => exact ⟨Bytes.crlf, [], by simp [Trailers.wire], isLine_crlf, by decide⟩
        | field line isLine _ more =>
            exact ⟨line, more.wire, rfl, isLine, hshort line (mem_cons_self ..)⟩

/-- The limit admits so many bytes of data. -/
def Admits (limit : Option ℕ) (n : ℕ) : Prop := ∀ greatest, limit = some greatest → n ≤ greatest

theorem Admits.mono {limit : Option ℕ} {m n : ℕ} (h : Admits limit n) (hm : m ≤ n) :
    Admits limit m :=
  fun greatest hg => hm.trans (h greatest hg)

theorem within_spec (limit : Option ℕ) (n : ℕ) (t : Transfer) :
    (within limit n).Ends t (fun _ t' => t' = t ∧ Admits limit n)
      (fun s t' => t' = t ∧ s ≠ .waiting ∧ ¬ Admits limit n) := by
  unfold within
  split
  · exact .pure ⟨rfl, fun _ h => by cases h⟩
  · rename_i greatest
    split
    · rename_i hlt
      exact .fail ⟨rfl, by simp, fun h => absurd (h greatest rfl) (Nat.not_le.mpr hlt)⟩
    · rename_i hle
      refine .pure ⟨rfl, fun g hg => ?_⟩
      obtain rfl := Option.some.inj hg
      exact Nat.le_of_not_lt hle

/-- A chunked body that is moved: its lines are short and its data is within the limit. -/
structure Movable (limit : Option ℕ) (total : ℕ) (b : ChunkedBody) : Prop where
  short : ShortLines b.lines
  admitted : Admits limit (total + b.data.length)

theorem Movable.of_chunk {limit : Option ℕ} {total : ℕ} {l data : Bytes} {hl : IsLine l}
    {hs : chunkSize l = .ok data.length} {hn : data ≠ []} {more : ChunkedBody}
    (h : Movable limit total (.chunk l data hl hs hn more)) :
    Movable limit (total + data.length) more where
  short := fun l hl => h.short l (mem_cons_of_mem _ hl)
  admitted := by simpa [ChunkedBody.data, Nat.add_assoc] using h.admitted

/-- The kept data is the data in what was moved. -/
def Decoded (part kept : Bytes) : Prop := kept = ChunkedBody.dataOf part

/-- Behind a size line that was moved, only what follows it can be lacking. -/
theorem Lacks.after_line {limit : Option ℕ} {total : ℕ} {l : Bytes} {t t₁ t' : Transfer} {s : Stop}
    (ha : Advance l l [] t t₁) (hl : IsLine l)
    (h : Lacks (fun part kept => Decoded (l ++ part) kept)
      (fun w => ∃ b, Movable limit total b ∧ b.wire = l ++ w) t₁ s t') :
    Lacks Decoded (fun w => ∃ b, Movable limit total b ∧ w = b.wire) t s t' := by
  refine .after ha h (fun _ _ hkept => hkept) ?_
  rintro w rest ⟨b, hb, rfl⟩ hup
  rw [ha.upcoming_bytes] at hup
  rcases b.cases_line hl _ hup.symm with ⟨_, tr, rfl, -⟩ | ⟨data, _, _, more, rfl, -⟩
  · exact ⟨tr.wire, rfl, _, hb, rfl⟩
  · exact ⟨data ++ (Bytes.crlf ++ more.wire), rfl, _, hb, rfl⟩

/-- What has come of a chunk, if it is not more than announced, is data. -/
theorem dataOf_cut {l part kept : Bytes} {size : ℕ} (hl : IsLine l)
    (hsize : chunkSize l = .ok size) (hpos : size ≠ 0) (h : AllKept size part kept) :
    ChunkedBody.dataOf (l ++ part) = kept := by
  have hbehind : part.drop (size + 2) = [] :=
    drop_eq_nil_of_le (h.length_le.trans (Nat.le_add_right _ _))
  rw [ChunkedBody.dataOf_chunk hl hsize hpos, hbehind, ChunkedBody.dataOf_nil, append_nil,
    take_of_length_le h.length_le, h.kept_eq]

theorem chunks_spec (limit : Option ℕ) (count total : ℕ) (t : Transfer)
    (hcount : t.upcoming.bytes.length < count) :
    (chunks limit count total).Ends t
      (fun n t' => ∃ b : ChunkedBody, n = total + b.data.length ∧
        (Admits limit total → Admits limit n) ∧ Advance b.wire b.wire b.data t t')
      (Lacks Decoded (fun w => ∃ b, Movable limit total b ∧ w = b.wire) t) := by
  induction count generalizing total t with
  | zero => cases hcount
  | succ count ih =>
      refine (moveLine_spec t).bind (fun l t₁ h₁ => ?_) fun s t₁ h₁ => h₁.of_front ?_ ?_
      · obtain ⟨ha, hl⟩ := h₁
        have hlt := ha.length_lt hl
        split
        · rename_i fault hsize
          have hnone : Decoded (l ++ []) [] := by
            refine (ChunkedBody.dataOf_line hl (fun size hok => ?_) _).symm
            cases hsize.symm.trans hok
          refine .fail (.after_line ha hl ⟨.of_effect (.refl t₁) hnone (fun h => by cases h), ?_⟩)
          rintro - w rest ⟨b, -, hw⟩ -
          obtain ⟨size, hok⟩ := b.exists_size hl hw
          rw [hsize] at hok
          cases hok
        · rename_i hsize
          refine (trailers_spec (count + 1) t₁ (by omega)).bind (fun _ t₂ h₂ => ?_)
            fun s t₂ h₂ => .after_line ha hl (h₂.of_front ?_ ?_)
          · obtain ⟨tr, ha₂⟩ := h₂
            exact .pure ⟨.last l hl hsize tr, rfl, id, ha.trans ha₂⟩
          · rintro part kept rfl
            refine (ChunkedBody.dataOf_line hl (fun size hok => ?_) part).symm
            exact (Except.ok.inj (hsize.symm.trans hok)).symm
          · rintro w rest ⟨b, hb, hw⟩ -
            obtain ⟨tr, rfl, rfl⟩ := b.eq_last hl hsize hw
            exact ⟨tr.wire, [], by simp, tr, fun l hl => hb.short l (mem_cons_of_mem _ hl), rfl⟩
        · rename_i size hpos hsize
          refine (within_spec limit (total + size) t₁).bind (fun _ t₂ h₂ => ?_)
            fun s t₂ h₂ => .after_line ha hl ?_
          · obtain ⟨rfl, hadmits⟩ := h₂
            refine (chunkData_spec size t₂).bind (fun _ t₃ h₃ => ?_)
              fun s t₃ h₃ => .after_line ha hl (h₃.of_front ?_ ?_)
            · obtain ⟨moved, rfl, ha₃⟩ := h₃
              have hn : moved ≠ [] := fun h => hpos (by rw [h, length_nil])
              have hlen := congrArg length ha₃.upcoming_bytes
              rw [length_append] at hlen
              refine (ih (total + moved.length) t₃ (by omega)).mono (fun n t₄ h₄ => ?_)
                fun s t₄ h₄ => .after_line ha hl (.after ha₃ h₄ ?_ ?_)
              · obtain ⟨more, rfl, hmore, ha₄⟩ := h₄
                refine ⟨.chunk l moved hl hsize hn more, ?_, fun _ => hmore hadmits, ?_⟩
                · simp [ChunkedBody.data, Nat.add_assoc]
                · simpa [ChunkedBody.wire, ChunkedBody.data] using ha.trans (ha₃.trans ha₄)
              · rintro part kept rfl
                refine Eq.symm ((ChunkedBody.dataOf_chunk hl hsize hpos _).trans ?_)
                rw [append_assoc, take_left, drop_length_add_append]
                rfl
              · rintro w rest ⟨b, hb, hw⟩ hup
                obtain ⟨data, hs, hne, more, rfl, hlen, rfl⟩ := b.eq_chunk hl hsize hpos hw
                simp only [ha₃.upcoming_bytes, append_assoc] at hup
                obtain ⟨rfl, -⟩ := append_inj hup hlen.symm
                exact ⟨more.wire, by simp, more, hb.of_chunk, rfl⟩
            · exact fun _ _ hkept => (dataOf_cut hl hsize hpos hkept).symm
            · rintro w rest ⟨b, hb, hw⟩ -
              obtain ⟨data, hs, hne, more, -, hlen, rfl⟩ := b.eq_chunk hl hsize hpos hw
              exact ⟨data ++ Bytes.crlf, more.wire, by simp, data, hlen, rfl⟩
          · obtain ⟨rfl, hs, hexceeds⟩ := h₂
            have hnone := (dataOf_cut hl hsize hpos (.nil size)).symm
            refine ⟨.of_effect (.refl t₂) hnone (fun h => (hs h).elim), ?_⟩
            rintro - w rest ⟨b, hb, hw⟩ - -
            obtain ⟨data, hs, hne, more, rfl, rfl, -⟩ := b.eq_chunk hl hsize hpos hw
            exact hexceeds (hb.of_chunk.admitted.mono (Nat.le_add_right _ _))
      · rintro part kept ⟨rfl, rfl⟩
        exact ChunkedBody.dataOf_nil.symm
      · rintro w rest ⟨b, hb, rfl⟩ -
        cases b with
        | last line isLine _ tr =>
            exact ⟨line, tr.wire, rfl, isLine, hb.short line (mem_cons_self ..)⟩
        | chunk line data isLine _ _ more =>
            exact ⟨line, data ++ (Bytes.crlf ++ more.wire), rfl, isLine,
              hb.short line (mem_cons_self ..)⟩

end Move

end TrafficCapture.Proxy
