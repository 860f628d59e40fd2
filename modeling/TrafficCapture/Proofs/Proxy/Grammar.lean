import TrafficCapture.Proofs.Proxy.Alike
import TrafficCapture.Proofs.Proxy.Body
import TrafficCapture.Proofs.Text.Numeral
import TrafficCapture.Proofs.Text.Search
import TrafficCapture.Proofs.Text.Utf8

/-! # The grammar of chunked bodies

The grammar by itself, as relations over bytes that do not call the code that reads them. A chunked
transfer that need not wait in vain and whose lines are short enough moves what the grammar
describes, and fails where nothing of the kind is in front. -/

namespace TrafficCapture.Proxy

open Net List

/-- A line that announces a size: it is UTF-8, and what stands before its first semicolon is, up to
white space around it, a hexadecimal numeral of a number of at most 64 bits. -/
structure AnnouncesSize (line : Bytes) (size : ℕ) : Prop where
  isLine : IsLine line
  numeral : ∃ cs, line = Text.Utf8.encodeChars cs ++ Bytes.crlf ∧
    Text.Numeral 16 (Text.trim (cs.takeWhile (· != ';'))) size
  fits : size < 2 ^ 64

/-- Any number of lines, and an empty one behind them. -/
inductive TrailerText : Bytes → Prop
  | blank : TrailerText Bytes.crlf
  | field {line wire : Bytes} (isLine : IsLine line) (nonblank : line ≠ Bytes.crlf)
      (more : TrailerText wire) : TrailerText (line ++ wire)

/-- A chunked body, with the sizes of its chunks and all their data. -/
inductive ChunkedText : Bytes → List ℕ → Bytes → Prop
  | last {line trailers : Bytes} (announced : AnnouncesSize line 0) (h : TrailerText trailers) :
      ChunkedText (line ++ trailers) [] []
  | chunk {line data wire rest : Bytes} {sizes : List ℕ}
      (announced : AnnouncesSize line data.length) (nonempty : data ≠ [])
      (more : ChunkedText wire sizes rest) :
      ChunkedText (line ++ (data ++ (Bytes.crlf ++ wire))) (data.length :: sizes) (data ++ rest)

/-! ## Size lines -/

/-- No numeral is left of a line that is too short to have an end. -/
theorem sizeText_of_short {line : Bytes} (h : line.length < 2) : Move.sizeText line = [] := by
  have hempty : Text.Utf8.decodeChars? [] = some [] := Text.Utf8.decodeChars?_eq_some_iff.mpr rfl
  rw [Move.sizeText, Nat.sub_eq_zero_of_le h.le, take_zero, hempty]
  rfl

theorem chunkSize_eq_ok_iff {line : Bytes} {size : ℕ} : Move.chunkSize line = .ok size ↔
    Text.Numeral 16 (Move.sizeText line) size ∧ size < 2 ^ 64 := by
  have hread : Text.readUnsigned 16 0xFFFFFFFFFFFFFFFF (Move.sizeText line) = .ok size ↔
      Text.Numeral 16 (Move.sizeText line) size ∧ size ≤ 0xFFFFFFFFFFFFFFFF :=
    Text.readUnsigned_eq_ok_iff (by decide)
  rw [show (size < 2 ^ 64) = (size ≤ 0xFFFFFFFFFFFFFFFF) from propext Nat.lt_succ_iff, ← hread,
    Move.chunkSize]
  by_cases hshort : line.length < 2
  · rw [if_pos hshort, sizeText_of_short hshort]
    exact ⟨nofun, nofun⟩
  · rw [if_neg hshort]
    cases Text.readUnsigned 16 0xFFFFFFFFFFFFFFFF (Move.sizeText line) with
    | ok n => exact ⟨fun h => congrArg Except.ok (Except.ok.inj h), fun h => by cases h; rfl⟩
    | error e => exact ⟨nofun, nofun⟩

/-- A line that announces no size is refused with what stands in the place of one, unless it is too
short to have an end. -/
theorem fault_of_chunkSize {line : Bytes} {fault : Fault} (h : Move.chunkSize line = .error fault) :
    fault = if line.length < 2 then .unendedLine
      else .badSize (String.ofList (Move.sizeText line)) := by
  unfold Move.chunkSize at h
  split at h
  · rename_i hshort
    rw [if_pos hshort]
    exact (Except.error.inj h).symm
  · rename_i hlong
    rw [if_neg hlong]
    cases hread : Text.readUnsigned 16 0xFFFFFFFFFFFFFFFF (Move.sizeText line) with
    | ok size =>
        rw [hread] at h
        cases h
    | error cause =>
        rw [hread] at h
        exact (Except.error.inj h).symm

/-- The size text of a line that is not UTF-8 is empty, and no numeral is. -/
theorem sizeText_append (front : Bytes) : Move.sizeText (front ++ Bytes.crlf) =
    match Text.Utf8.decodeChars? front with
    | none => []
    | some cs => Text.trim (cs.takeWhile (· != ';')) := by
  have hfront : (front ++ Bytes.crlf).take ((front ++ Bytes.crlf).length - 2) = front := by
    rw [length_append]
    exact take_left
  rw [Move.sizeText, hfront]
  split <;> simp_all [Text.cutAt_fst]

/-- What a line announces is its size as it is read. -/
theorem announcesSize_iff {line : Bytes} {size : ℕ} :
    AnnouncesSize line size ↔ IsLine line ∧ Move.chunkSize line = .ok size := by
  rw [chunkSize_eq_ok_iff]
  constructor
  · rintro ⟨isLine, ⟨cs, rfl, hnumeral⟩, hfits⟩
    have hdecode := Text.Utf8.decodeChars?_eq_some_iff.mpr (Eq.refl (Text.Utf8.encodeChars cs))
    refine ⟨isLine, ?_, hfits⟩
    rw [sizeText_append, hdecode]
    exact hnumeral
  · rintro ⟨isLine, hnumeral, hfits⟩
    obtain ⟨front, rfl⟩ := isLine.ends
    rw [sizeText_append] at hnumeral
    cases hdecode : Text.Utf8.decodeChars? front with
    | none =>
        rw [hdecode] at hnumeral
        exact (hnumeral.ne_nil rfl).elim
    | some cs =>
        rw [hdecode] at hnumeral
        rw [Text.Utf8.decodeChars?_eq_some_iff.mp hdecode] at isLine ⊢
        exact ⟨isLine, ⟨cs, rfl, hnumeral⟩, hfits⟩

/-! ## Trees and texts -/

theorem trailerText_iff {wire : Bytes} : TrailerText wire ↔ ∃ tr : Trailers, tr.wire = wire := by
  constructor
  · intro h
    induction h with
    | blank => exact ⟨.blank, rfl⟩
    | field isLine nonblank more ih =>
        obtain ⟨tr, rfl⟩ := ih
        exact ⟨.field _ isLine nonblank tr, rfl⟩
  · rintro ⟨tr, rfl⟩
    induction tr with
    | blank => exact .blank
    | field line isLine nonblank more ih => exact .field isLine nonblank ih

/-- A text of the grammar is that of a tree. -/
theorem ChunkedText.exists_tree {wire data : Bytes} {sizes : List ℕ}
    (h : ChunkedText wire sizes data) : ∃ b : ChunkedBody, b.wire = wire ∧ b.data = data := by
  induction h with
  | last announced h =>
      obtain ⟨isLine, size⟩ := announcesSize_iff.mp announced
      obtain ⟨tr, rfl⟩ := trailerText_iff.mp h
      exact ⟨.last _ isLine size tr, rfl, rfl⟩
  | chunk announced nonempty more ih =>
      obtain ⟨isLine, size⟩ := announcesSize_iff.mp announced
      obtain ⟨b, rfl, rfl⟩ := ih
      exact ⟨.chunk _ _ isLine size nonempty b, rfl, rfl⟩

theorem ChunkedBody.exists_sizes (b : ChunkedBody) : ∃ sizes, ChunkedText b.wire sizes b.data := by
  induction b with
  | last line isLine size trailers =>
      have htrailers : TrailerText trailers.wire := trailerText_iff.mpr ⟨trailers, rfl⟩
      exact ⟨[], .last (announcesSize_iff.mpr ⟨isLine, size⟩) htrailers⟩
  | chunk line data isLine size nonempty more ih =>
      obtain ⟨sizes, hmore⟩ := ih
      exact ⟨data.length :: sizes, .chunk (announcesSize_iff.mpr ⟨isLine, size⟩) nonempty hmore⟩

theorem ChunkedText.sum_sizes {wire data : Bytes} {sizes : List ℕ}
    (h : ChunkedText wire sizes data) : sizes.sum = data.length := by
  induction h with
  | last announced h => rfl
  | chunk announced nonempty more ih => rw [sum_cons, ih, length_append]

theorem ChunkedText.length_data_le {wire data : Bytes} {sizes : List ℕ}
    (h : ChunkedText wire sizes data) : data.length ≤ wire.length := by
  induction h with
  | last announced h => exact Nat.zero_le _
  | chunk announced nonempty more ih =>
      simp only [length_append]
      omega

/-- Bytes begin with at most one text of the grammar. -/
theorem ChunkedText.unique {wire wire' data data' bytes : Bytes} {sizes sizes' : List ℕ}
    (h : ChunkedText wire sizes data) (h' : ChunkedText wire' sizes' data') (hw : wire <+: bytes)
    (hw' : wire' <+: bytes) : wire = wire' ∧ data = data' := by
  obtain ⟨b, rfl, rfl⟩ := h.exists_tree
  obtain ⟨b', rfl, rfl⟩ := h'.exists_tree
  obtain ⟨rest, rfl⟩ := hw
  obtain ⟨rest', hrest⟩ := hw'
  obtain rfl := b'.unique b hrest
  exact ⟨rfl, rfl⟩

/-! ## Lines that are met -/

theorem Trailers.meets (tr : Trailers) (rest : Bytes) :
    ∀ line ∈ tr.lines, Move.MeetsTrailer line (tr.wire ++ rest) := by
  induction tr with
  | blank =>
      intro line hline
      obtain rfl := mem_singleton.mp hline
      exact .here rest isLine_crlf
  | field first isLine nonblank more ih =>
      intro line hline
      rw [wire, append_assoc]
      rcases mem_cons.mp hline with rfl | hline
      · exact .here _ isLine
      · exact .behind isLine nonblank (ih line hline)

theorem ChunkedBody.meets (b : ChunkedBody) (rest : Bytes) :
    ∀ line ∈ b.lines, Move.Meets line (b.wire ++ rest) := by
  induction b with
  | last first isLine size trailers =>
      intro line hline
      rw [wire, append_assoc]
      rcases mem_cons.mp hline with rfl | hline
      · exact .size _ isLine
      · exact .trailer isLine size (trailers.meets rest line hline)
  | chunk first data isLine size nonempty more ih =>
      intro line hline
      simp only [wire, append_assoc]
      rcases mem_cons.mp hline with rfl | hline
      · exact .size _ isLine
      · have hbehind := Move.Meets.behind isLine size nonempty (ih line hline)
        rwa [append_assoc] at hbehind

/-! ## Transfers -/

theorem accepts_of_room {p : Peer} (h : p.room = none) (n : ℕ) : p.Accepts n :=
  fun room hroom => by rw [h] at hroom; cases hroom

/-- A chunked transfer moves what the grammar describes, and nothing else. If there is a chunked
body in front of what is upcoming, within the limit if there is one, then just this body is written,
its data is kept as far as there is room, and the sum of its sizes is the result, which 64 bits can
hold if fewer bytes than that were upcoming. If there is none, then the transfer fails, and what it
wrote before that was a front of what was upcoming. -/
theorem chunked_body_moved (limit : Option ℕ) (t : Transfer) (hwatch : t.Watched)
    (hended : t.upcoming.ending = .ended) (hroom : t.sink.room = none)
    (hfit : Move.ChunksFit t.upcoming.bytes) :
    (∀ wire sizes data, ChunkedText wire sizes data → wire <+: t.upcoming.bytes →
      Move.Admits limit sizes.sum →
      ∃ t', Move.body limit .chunked t = .ok sizes.sum t' ∧ Advance wire wire data t t' ∧
        (t.upcoming.bytes.length < 2 ^ 64 → (UInt64.ofNat sizes.sum).toNat = sizes.sum)) ∧
    ((¬ ∃ wire sizes data, ChunkedText wire sizes data ∧ wire <+: t.upcoming.bytes ∧
        Move.Admits limit sizes.sum) →
      ∃ fault t' part, Move.body limit .chunked t = .error (.failed fault) t' ∧
        part <+: t.upcoming.bytes ∧ t'.sink.received = t.sink.received ++ part) := by
  have hspec := Move.body_spec limit .chunked t
  constructor
  · intro wire sizes data htext hprefix hadmits
    obtain ⟨b, rfl, rfl⟩ := htext.exists_tree
    have hfound : Framing.chunked.Finds t.upcoming (.chunked b) := ⟨rfl, hprefix⟩
    obtain ⟨rest, hrest⟩ := hprefix
    have hlt : t.upcoming.bytes.length < 2 ^ 64 →
        (UInt64.ofNat sizes.sum).toNat = sizes.sum := by
      intro hbytes
      have hle := htext.length_data_le
      rw [← hrest, length_append] at hbytes
      rw [UInt64.toNat_ofNat', htext.sum_sizes]
      exact Nat.mod_eq_of_lt (by omega)
    cases hrun : Move.body limit .chunked t with
    | ok n t' =>
        obtain ⟨b', hfound', -, rfl, hadvance⟩ := hspec.of_ok hrun
        obtain rfl := hfound.unique hfound'
        rw [htext.sum_sizes]
        exact ⟨t', rfl, hadvance, htext.sum_sizes ▸ hlt⟩
    | error s t' =>
        have hshort : ShortLines b.lines := fun line hline =>
          hfit line (hrest ▸ b.meets rest line hline)
        have hadmitted : Move.Admits limit b.data.length := htext.sum_sizes ▸ hadmits
        have hmovable : (Body.chunked b).Movable limit := ⟨hshort, hadmitted⟩
        exact ((hspec.of_error hrun).missing hwatch b.wire rest ⟨_, hfound, hmovable, rfl⟩
          hrest.symm (accepts_of_room hroom _)).elim
  · intro hnone
    cases hrun : Move.body limit .chunked t with
    | ok n t' =>
        obtain ⟨b, ⟨hframing, hbegins⟩, hadmitted, -, -⟩ := hspec.of_ok hrun
        cases b with
        | chunked b =>
            obtain ⟨sizes, htext⟩ := b.exists_sizes
            have hadmits : Move.Admits limit sizes.sum := htext.sum_sizes.symm ▸ hadmitted
            exact (hnone ⟨_, sizes, _, htext, hbegins, hadmits⟩).elim
        | _ => cases hframing
    | error s t' =>
        obtain ⟨⟨part, kept, heffect, hpart, -⟩, hsilent⟩ := (hspec.of_error hrun).halted
        cases s with
        | failed fault => exact ⟨fault, t', part, rfl, hpart, heffect.received⟩
        | waiting =>
            have hnever := hsilent rfl hwatch
            rw [hended] at hnever
            cases hnever

/-- A chunk with an extension whose line end is cut in two, a trailer, and more behind the body. -/
def cutTransfer : Transfer where
  source := { script := [.arrival (Bytes.ofAscii "bc\r"), .delay 5,
    .arrival (Bytes.ofAscii "\n0\r\na: b\r\n\r\nGET")] }
  sink := {}
  clock := { horizon := 5 }
  held := Bytes.ofAscii "+3 ;x\r\na"

theorem chunkedText_cut :
    ChunkedText (Bytes.ofAscii "+3 ;x\r\nabc\r\n0\r\na: b\r\n\r\n") [3] (Bytes.ofAscii "abc") := by
  have hfirst : AnnouncesSize (Bytes.ofAscii "+3 ;x\r\n") 3 :=
    announcesSize_iff.mpr ⟨by decide, by decide +kernel⟩
  have hlast : AnnouncesSize (Bytes.ofAscii "0\r\n") 0 :=
    announcesSize_iff.mpr ⟨by decide, by decide +kernel⟩
  have htrailers : TrailerText (Bytes.ofAscii "a: b\r\n\r\n") :=
    @TrailerText.field (Bytes.ofAscii "a: b\r\n") _ (by decide) (by decide) .blank
  have hdata : Bytes.ofAscii "abc" ≠ [] := by decide
  exact .chunk hfirst hdata (.last hlast htrailers)

/-- The body above is moved if the limit admits it, and refused if it does not. -/
theorem cut_chunk_moved :
    (∃ t', Move.body (some 3) .chunked cutTransfer = .ok 3 t' ∧
      t'.sink.received = Bytes.ofAscii "+3 ;x\r\nabc\r\n0\r\na: b\r\n\r\n" ∧
      t'.captured.bytes = Bytes.ofAscii "abc") ∧
    ∃ fault t' part, Move.body (some 2) .chunked cutTransfer = .error (.failed fault) t' ∧
      part <+: cutTransfer.upcoming.bytes ∧ t'.sink.received = part := by
  have hfit : Move.ChunksFit cutTransfer.upcoming.bytes :=
    fun line hmeets => hmeets.length_le.trans (by decide)
  have hwatch : Outlasts cutTransfer.clock cutTransfer.source.script := by decide
  have hmoved (limit : Option ℕ) :=
    chunked_body_moved limit cutTransfer hwatch (by decide) rfl hfit
  constructor
  · obtain ⟨t', hrun, hadvance, -⟩ := (hmoved (some 3)).1 _ _ _ chunkedText_cut (by decide)
      (fun greatest h => by cases h; decide)
    exact ⟨t', hrun, hadvance.received, hadvance.captured⟩
  · apply (hmoved (some 2)).2
    rintro ⟨wire, sizes, data, htext, hprefix, hadmits⟩
    obtain ⟨-, rfl⟩ := htext.unique chunkedText_cut hprefix (by decide)
    exact absurd (htext.sum_sizes ▸ hadmits 2 rfl) (by decide)

end TrafficCapture.Proxy
