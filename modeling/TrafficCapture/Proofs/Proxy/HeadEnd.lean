import TrafficCapture.Proofs.Http.Head
import TrafficCapture.Proofs.Proxy.Head

/-! # The end of a head

A head is cut off at the first blank line that consists, like the end of the line before it, of a
carriage return and a line feed. It is then understood by itself, where a line feed alone ends a
line, too. Both come to the same end if and only if the last two line ends of the head as it is
understood have their carriage returns. -/

namespace TrafficCapture

open List

namespace Http.Head

/-- The text ends with the end of a line and a blank line. -/
structure EndsBlank (last blank text : Bytes) : Prop where
  lastEnd : LineEnd last
  blankLine : LineEnd blank
  /-- A carriage return in front of the first line end belongs to it. -/
  ends : ∃ line, text = line ++ (last ++ blank) ∧ ∀ b ∈ line.getLast?, b ≠ 13

theorem getLast?_append_ne (front : Bytes) {word : Bytes} (hne : word ≠ []) (hword : 13 ∉ word) :
    ∀ b ∈ (front ++ word).getLast?, b ≠ 13 := by
  intro b hb
  rw [getLast?_append_of_ne_nil _ hne] at hb
  rintro rfl
  exact hword (mem_of_getLast? hb)

theorem notMem_of_printed {bytes : Bytes} (h : ∀ b ∈ bytes, isValueByte b = true) : 13 ∉ bytes :=
  fun hmem => absurd (h 13 hmem) (by decide)

theorem notMem_of_padding {bytes : Bytes} (h : ∀ b ∈ bytes, isPadding b = true) : 13 ∉ bytes :=
  notMem_of_printed fun b hb => isValueByte_of_isPadding (h b hb)

/-- Behind any line, a block of fields ends with a blank line. -/
theorem FieldBlock.endsBlank {fs : List WireField} {block : Bytes} (h : FieldBlock fs block)
    {line eol : Bytes} (hline : ∀ b ∈ line.getLast?, b ≠ 13) (heol : LineEnd eol) :
    ∃ last blank, EndsBlank last blank (line ++ (eol ++ block)) := by
  induction h generalizing line eol with
  | nil hblank => exact ⟨eol, _, heol, hblank, line, rfl, hline⟩
  | @cons f fs _ block hfield more ih =>
      obtain ⟨before, behind, eol', hbefore, hbehind, heol', rfl⟩ := hfield
      let word := 58 :: (before ++ (f.value ++ behind))
      have hword : 13 ∉ word := by
        simp only [word, mem_cons, mem_append, not_or]
        exact ⟨by decide, notMem_of_padding hbefore, notMem_of_printed f.printed,
          notMem_of_padding hbehind⟩
      have hlast := getLast?_append_ne (line ++ (eol ++ f.name)) (cons_ne_nil _ _) hword
      obtain ⟨last, blank, hends⟩ := ih hlast heol'
      refine ⟨last, blank, ?_⟩
      simpa [word] using hends

theorem RequestText.endsBlank {w : WireRequest} {text : Bytes} (h : RequestText w text) :
    ∃ last blank, EndsBlank last blank text := by
  obtain ⟨lines, eol, block, -, heol, hblock, rfl⟩ := h
  let word := Bytes.ofAscii (versionText w.minor)
  have hword : word ≠ [] ∧ 13 ∉ word := by
    obtain hminor | hminor := Nat.le_one_iff_eq_zero_or_eq_one.mp w.known <;>
      simp only [word, hminor] <;> decide
  have hlast := getLast?_append_ne (lines ++ (w.method ++ 32 ::
    (Text.Utf8.encode w.target ++ [32]))) hword.1 hword.2
  obtain ⟨last, blank, hends⟩ := hblock.endsBlank hlast heol
  refine ⟨last, blank, ?_⟩
  simpa [word] using hends

/-- What stands behind a status code ends its line. -/
theorem ReasonText.exists_line {shown : String} {text : Bytes} (h : ReasonText shown text) :
    ∃ line eol, text = line ++ eol ∧ LineEnd eol ∧ 13 ∉ line := by
  cases h with
  | absent heol => exact ⟨[], _, rfl, heol, not_mem_nil⟩
  | shown heol hprinted | hidden heol hprinted =>
      refine ⟨32 :: _, _, rfl, heol, ?_⟩
      rw [mem_cons, not_or]
      exact ⟨by decide, notMem_of_printed hprinted⟩

theorem ResponseText.endsBlank {w : WireResponse} {text : Bytes} (h : ResponseText w text) :
    ∃ last blank, EndsBlank last blank text := by
  obtain ⟨lines, reason, block, -, hreason, hblock, rfl⟩ := h
  let front := lines ++ (Bytes.ofAscii (versionText w.minor) ++ [32])
  have hcode : 13 ∉ codeText w.status := fun hmem =>
    absurd (toNat_of_mem_codeText w.short 13 hmem).1 (by decide)
  obtain ⟨shown, eol, rfl, heol, hshown⟩ := hreason.exists_line
  have hword : 13 ∉ codeText w.status ++ shown := by
    rw [mem_append, not_or]
    exact ⟨hcode, hshown⟩
  have hlast := getLast?_append_ne front (by simp [codeText]) hword
  obtain ⟨last, blank, hends⟩ := hblock.endsBlank hlast heol
  refine ⟨last, blank, ?_⟩
  simpa [front] using hends

theorem LineEnd.getLast?_eq {eol : Bytes} (h : LineEnd eol) (front : Bytes) :
    (front ++ eol).getLast? = some 10 := by
  cases h <;> simp

/-- A text that ends with a blank line ends with the mark of the end of a head if and only if both
line ends are whole. -/
theorem EndsBlank.headEnd_iff {last blank text : Bytes} (h : EndsBlank last blank text) :
    Bytes.headEnd <:+ text ↔ last = Bytes.crlf ∧ blank = Bytes.crlf := by
  obtain ⟨hlast, hblank, line, rfl, hline⟩ := h
  constructor
  · rintro ⟨front, hfront⟩
    cases hblank with
    | lf =>
        -- what stands in front of the last line feed ends with another one
        have hdrop := congrArg dropLast hfront
        rw [← append_assoc, dropLast_concat] at hdrop
        have hfeed := hlast.getLast?_eq line
        rw [← hdrop, show front ++ Bytes.headEnd = front ++ [13, 10, 13] ++ [10] by
          simp [Bytes.headEnd], dropLast_concat] at hfeed
        simp at hfeed
    | crlf =>
        refine ⟨?_, rfl⟩
        cases hlast with
        | crlf => rfl
        | lf =>
            have hcut : front ++ [13] ++ [10, 13, 10] = line ++ [10, 13, 10] := by
              simpa [Bytes.headEnd] using hfront
            rw [append_cancel_right_eq] at hcut
            refine (hline 13 ?_ rfl).elim
            rw [← hcut]
            simp
  · rintro ⟨rfl, rfl⟩
    exact ⟨line, rfl⟩

end Http.Head

namespace Proxy

open Net
open Http.Head (RequestText ResponseText EndsBlank)

/-- Bytes that end where the mark first occurs end with a front that has the mark at its end, too. -/
theorem eq_nil_of_endsAtFirst {mark text rest : Bytes} (h : Bytes.EndsAtFirst mark (text ++ rest))
    (hmark : mark <:+ text) : rest = [] := by
  by_contra hne
  apply h.first
  rw [dropLast_append_of_ne_nil hne]
  exact hmark.isInfix.trans (prefix_append _ _).isInfix

/-- A head that was cut off and understood is the text of a head with some bytes behind it, which
are neither part of the head nor of what follows it. There are none, so that all that was cut off
was understood and the body begins behind the blank line, if and only if the last line of the text
and the blank line end with a carriage return and a line feed. -/
theorem head_ends_agree_iff {peer left : Peer} {clock later : Clock} {raw held rest : Bytes}
    (h : readHead peer clock = (.ok (raw, held), left, later))
    (hread : (∃ head, Http.Head.request fieldLimit raw = .ok (head, rest)) ∨
      ∃ head, Http.Head.response fieldLimit raw = .ok (head, rest)) :
    ∃ text last blank, ((∃ w, RequestText w text) ∨ ∃ w, ResponseText w text) ∧
      EndsBlank last blank text ∧
      delivery peer.script = ((delivery left.script).behind held).behind (text ++ rest) ∧
      raw = text ++ rest ∧
      (text.length = raw.length ↔ last = Bytes.crlf ∧ blank = Bytes.crlf) := by
  have hends := endsAtFirst_of_readHead h
  have hall := delivery_of_readHead h
  obtain ⟨text, htext, rfl⟩ : ∃ text, ((∃ w, RequestText w text) ∨ ∃ w, ResponseText w text) ∧
      raw = text ++ rest := by
    rcases hread with ⟨head, hhead⟩ | ⟨head, hhead⟩
    · obtain ⟨w, text, htext, -, hraw, -⟩ := Http.Head.request_eq_ok_iff.mp hhead
      exact ⟨text, .inl ⟨w, htext⟩, hraw⟩
    · obtain ⟨w, text, htext, -, hraw, -⟩ := Http.Head.response_eq_ok_iff.mp hhead
      exact ⟨text, .inr ⟨w, htext⟩, hraw⟩
  obtain ⟨last, blank, hblank⟩ : ∃ last blank, EndsBlank last blank text := by
    rcases htext with ⟨w, htext⟩ | ⟨w, htext⟩ <;> exact htext.endsBlank
  refine ⟨text, last, blank, htext, hblank, ?_, rfl, ?_⟩
  · rw [hall, Delivery.behind_behind]
  · rw [← hblank.headEnd_iff, length_append, Nat.left_eq_add, length_eq_zero_iff]
    constructor
    · rintro rfl
      simpa using hends.ends
    · exact eq_nil_of_endsAtFirst hends

/-- A server that ends its lines with line feeds alone, and sends a body that ends like a head. -/
def bareServer : Peer where
  script := [.arrival (Bytes.ofAscii "HTTP/1.1 200 OK\nContent-Length: 6\n\nhi\r\n\r\n")]

/-- The whole body is cut off with the head, so that nothing is left to come behind it. -/
theorem head_ends_agree_iff_bare :
    ∃ text last blank, EndsBlank last blank text ∧
      (delivery bareServer.script).bytes = text ++ Bytes.ofAscii "hi\r\n\r\n" ∧
      ¬ (last = Bytes.crlf ∧ blank = Bytes.crlf) := by
  have h : readHead bareServer ⟨100, []⟩ =
      (.ok (Bytes.ofAscii "HTTP/1.1 200 OK\nContent-Length: 6\n\nhi\r\n\r\n", []),
        { script := [], reads := 1 }, ⟨100, []⟩) := by decide +kernel
  have hread : Http.Head.response fieldLimit
      (Bytes.ofAscii "HTTP/1.1 200 OK\nContent-Length: 6\n\nhi\r\n\r\n") =
        .ok (⟨1, 200, "OK", [("Content-Length", "6")]⟩, Bytes.ofAscii "hi\r\n\r\n") := by
    decide +kernel
  obtain ⟨text, last, blank, -, hends, hall, hraw, hiff⟩ := head_ends_agree_iff h (.inr ⟨_, hread⟩)
  refine ⟨text, last, blank, hends, by rw [← hraw]; rfl, ?_⟩
  rw [← hiff, hraw, length_append]
  have hsix : (Bytes.ofAscii "hi\r\n\r\n").length = 6 := rfl
  omega

end Proxy

end TrafficCapture
