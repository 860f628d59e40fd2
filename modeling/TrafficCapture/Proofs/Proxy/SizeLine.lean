import TrafficCapture.Proofs.Proxy.Grammar

/-! # Size lines

Which lines announce the size of a chunk, and which size. A strict reader takes hexadecimal digits
alone, with spaces and tabs around them. The proxy takes a plus sign in front of the digits as well,
and any white space around them. It refuses every other line. -/

namespace TrafficCapture.Proxy

open List

/-- A size of at most 64 bits, written as a numeral of one kind with blanks of one kind around
it. -/
def SizeWritten (blank : Char → Prop) (numeral : List Char → ℕ → Prop) (text : List Char)
    (size : ℕ) : Prop :=
  size < 2 ^ 64 ∧ ∃ before digits after, text = before ++ (digits ++ after) ∧
    (∀ c ∈ before, blank c) ∧ (∀ c ∈ after, blank c) ∧ numeral digits size

/-- One or more hexadecimal digits, with nothing but spaces and tabs around them. -/
def StrictSize : List Char → ℕ → Prop :=
  SizeWritten (fun c => c = ' ' ∨ c = '\t') fun digits size =>
    ∃ ds, Text.Spells 16 ds digits ∧ ds ≠ [] ∧ size = Text.numberOf 16 0 ds

/-- One or more hexadecimal digits, maybe behind a plus sign, with white space around them. -/
def LooseSize : List Char → ℕ → Prop :=
  SizeWritten (fun c => Text.isBlank c = true) (Text.Numeral 16)

/-- A character that a strict reader may meet. -/
def Plain (c : Char) : Prop := c = ' ' ∨ c = '\t' ∨ ∃ d, Text.HexDigit d c

section

variable {text : List Char} {size : ℕ}

/-- White space is what is removed around a numeral. -/
theorem looseSize_iff :
    LooseSize text size ↔ Text.Numeral 16 (Text.trim text) size ∧ size < 2 ^ 64 := by
  constructor
  · rintro ⟨hfits, before, digits, after, rfl, hbefore, hafter, hnumeral⟩
    rw [Text.trim_append hbefore hnumeral.not_isBlank hafter]
    exact ⟨hnumeral, hfits⟩
  · intro h
    obtain ⟨before, after, htext, hbefore, hafter⟩ := Text.exists_trim text
    exact ⟨h.2, before, Text.trim text, after, htext, hbefore, hafter, h.1⟩

theorem not_plain_plus : ¬ Plain '+' := by
  intro h
  rcases h with h | h | ⟨d, hd⟩
  · exact absurd h (by decide)
  · exact absurd h (by decide)
  · exact absurd hd.spec.1 (by decide)

/-- A blank that a strict reader may meet is a space or a tab. -/
theorem Plain.blank {c : Char} (h : Plain c) (hc : Text.isBlank c = true) : c = ' ' ∨ c = '\t' := by
  rcases h with h | h | ⟨d, hd⟩
  · exact Or.inl h
  · exact Or.inr h
  · rw [hd.not_isBlank] at hc
    cases hc

theorem StrictSize.plain (h : StrictSize text size) : ∀ c ∈ text, Plain c := by
  obtain ⟨-, before, digits, after, rfl, hbefore, hafter, ds, hdigits, -, -⟩ := h
  have hblank {c : Char} (hc : c = ' ' ∨ c = '\t') : Plain c := hc.imp_right Or.inl
  intro c hc
  rcases mem_append.mp hc with hc | hc
  · exact hblank (hbefore c hc)
  rcases mem_append.mp hc with hc | hc
  · exact Or.inr (Or.inr (hdigits.exists_digit c hc))
  · exact hblank (hafter c hc)

theorem StrictSize.loose (h : StrictSize text size) : LooseSize text size := by
  obtain ⟨hfits, before, digits, after, htext, hbefore, hafter, ds, hdigits, hne, rfl⟩ := h
  have hblank {c : Char} (hc : c = ' ' ∨ c = '\t') : Text.isBlank c = true := by
    rcases hc with rfl | rfl <;> decide
  exact ⟨hfits, before, digits, after, htext, fun c hc => hblank (hbefore c hc),
    fun c hc => hblank (hafter c hc), .bare hdigits hne⟩

/-- Only other characters make a difference between the two ways to read a size. -/
theorem strictSize_iff : StrictSize text size ↔ LooseSize text size ∧ ∀ c ∈ text, Plain c := by
  constructor
  · intro h
    exact ⟨h.loose, h.plain⟩
  · rintro ⟨⟨hfits, before, digits, after, rfl, hbefore, hafter, hnumeral⟩, hplain⟩
    simp only [forall_mem_append] at hplain
    obtain ⟨hplainBefore, hplainDigits, hplainAfter⟩ := hplain
    refine ⟨hfits, before, digits, after, rfl, ?_, ?_, ?_⟩
    · intro c hc
      exact (hplainBefore c hc).blank (hbefore c hc)
    · intro c hc
      exact (hplainAfter c hc).blank (hafter c hc)
    · cases hnumeral with
      | bare hdigits hne => exact ⟨_, hdigits, hne, rfl⟩
      | signed hdigits hne => exact absurd (hplainDigits '+' mem_cons_self) not_plain_plus

end

/-- A line of a text, up to its first semicolon, is read as a size if and only if it is written as
one, in the loose way, and refused with what stands there if it is not. A strict reader takes the
same size for it if and only if there are no characters but digits, spaces and tabs in it. -/
theorem size_line_read (cs : List Char) :
    let line := Text.Utf8.encodeChars cs ++ Bytes.crlf
    let field := cs.takeWhile (· != ';')
    (∀ size, Move.chunkSize line = .ok size ↔ LooseSize field size) ∧
      ((∀ size, ¬ LooseSize field size) →
        Move.chunkSize line = .error (.badSize (String.ofList (Text.trim field)))) ∧
      ∀ size, StrictSize field size ↔
        Move.chunkSize line = .ok size ∧ ∀ c ∈ field, Plain c := by
  intro line field
  have hdecode : Text.Utf8.decodeChars? (Text.Utf8.encodeChars cs) = some cs :=
    Text.Utf8.decodeChars?_eq_some_iff.mpr rfl
  have hfield : Move.sizeText line = Text.trim field := by
    rw [sizeText_append, hdecode]
  have hread (size : ℕ) : Move.chunkSize line = .ok size ↔ LooseSize field size := by
    rw [chunkSize_eq_ok_iff, hfield, looseSize_iff]
  refine ⟨hread, ?_, ?_⟩
  · intro hnone
    cases hsize : Move.chunkSize line with
    | ok size => exact absurd ((hread size).mp hsize) (hnone size)
    | error fault =>
        have hlength : 2 ≤ line.length := by
          rw [length_append]
          exact Nat.le_add_left _ _
        rw [fault_of_chunkSize hsize, if_neg (Nat.not_lt_of_le hlength), hfield]
  · intro size
    rw [hread, strictSize_iff]

/-- A sign and a vertical tab, which a strict reader refuses. -/
theorem loose_sizes_taken :
    (IsLine (Text.Utf8.encode "+5" ++ Bytes.crlf) ∧
      Move.chunkSize (Text.Utf8.encode "+5" ++ Bytes.crlf) = .ok 5 ∧
      ∀ size, ¬ StrictSize "+5".toList size) ∧
    (IsLine (Text.Utf8.encode "\x0b5" ++ Bytes.crlf) ∧
      Move.chunkSize (Text.Utf8.encode "\x0b5" ++ Bytes.crlf) = .ok 5 ∧
      ∀ size, ¬ StrictSize "\x0b5".toList size) := by
  have htab : ¬ Plain '\x0b' := by
    intro h
    exact absurd (h.blank (by decide)) (by decide)
  refine ⟨⟨by decide +kernel, by decide +kernel, ?_⟩, ⟨by decide +kernel, by decide +kernel, ?_⟩⟩
  · intro size h
    exact not_plain_plus (h.plain '+' (by decide))
  · intro size h
    exact htab (h.plain '\x0b' (by decide))

end TrafficCapture.Proxy
