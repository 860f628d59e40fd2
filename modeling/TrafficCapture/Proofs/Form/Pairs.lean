import TrafficCapture.Form
import TrafficCapture.Proofs.Text.Numeral
import TrafficCapture.Proofs.Text.Search
import TrafficCapture.Proofs.Text.Utf8

/-! # Queries that are put together

How characters are encoded in a query, that decoding undoes it, and what the pairs of a query are
when it is put together from parts. -/

namespace TrafficCapture

open List

namespace Form

/-- A character that stands for itself in a query: one of ASCII that is no escape. -/
def Plain (c : Char) : Prop := c.toNat < 0x80 ∧ c ≠ '%' ∧ c ≠ '+'

instance (c : Char) : Decidable (Plain c) :=
  inferInstanceAs (Decidable (c.toNat < 0x80 ∧ c ≠ '%' ∧ c ≠ '+'))

theorem plain_of_all {cs : List Char} (h : (cs.all fun c => decide (Plain c)) = true) :
    ∀ c ∈ cs, Plain c :=
  fun c hc => of_decide_eq_true (all_eq_true.mp h c hc)

theorem plain_of_isDigit {c : Char} (h : c.isDigit = true) : Plain c := by
  have hrange := Text.toNat_of_isDigit h
  refine ⟨by omega, ?_, ?_⟩
  · rintro rfl
    exact absurd hrange (by decide)
  · rintro rfl
    exact absurd hrange (by decide)

/-! ## Decoding -/

/-- What escapes bytes, each of them as a percent sign with its two digits. -/
inductive Escapes : Bytes → List Char → Prop
  | nil : Escapes [] []
  | cons {b : UInt8} {bytes : Bytes} {high low : Char} {text : List Char}
      (hhigh : Text.HexDigit (b.toNat / 16) high) (hlow : Text.HexDigit (b.toNat % 16) low)
      (more : Escapes bytes text) : Escapes (b :: bytes) ('%' :: high :: low :: text)

/-- What encodes characters: each of them is left as it is if it is none of those `reserved`, or
all its bytes are escaped, or it is a space and stands there as a plus sign. -/
inductive Encodes (reserved : List Char) : List Char → List Char → Prop
  | nil : Encodes reserved [] []
  | bare {c : Char} {cs text : List Char} (h : c ∉ reserved) (more : Encodes reserved cs text) :
      Encodes reserved (c :: cs) (c :: text)
  | escaped {c : Char} {cs escape text : List Char}
      (h : Escapes (String.utf8EncodeChar c) escape) (more : Encodes reserved cs text) :
      Encodes reserved (c :: cs) (escape ++ text)
  | plus {cs text : List Char} (more : Encodes reserved cs text) :
      Encodes reserved (' ' :: cs) ('+' :: text)

/-- The byte of a digit is read as its value. -/
theorem hexByte?_of_hexDigit {n : ℕ} {c : Char} (h : Text.HexDigit n c) :
    hexByte? (UInt8.ofNat c.toNat) = some (UInt8.ofNat n) := by
  obtain ⟨-, hascii, hread⟩ := h.spec
  rw [hexByte?, Text.Utf8.toNat_ofNat_of_lt (Nat.lt_trans hascii (by decide)), Char.ofNat_toNat,
    hread]
  rfl

/-- Bytes that are no marks stand for themselves. -/
theorem run_append_of_ne {front : Bytes} (h : ∀ b ∈ front, b ≠ 0x25 ∧ b ≠ 0x2B) (rest : Bytes) :
    scanner.run (front ++ rest) = front ++ scanner.run rest := by
  induction front with
  | nil => rfl
  | cons b front ih =>
      obtain ⟨⟨hpercent, hplus⟩, hfront⟩ := forall_mem_cons.mp h
      have hstep : scanner.step b (front ++ rest) = (b, front ++ rest) := by
        change decodeByte b (front ++ rest) = _
        simp [decodeByte, hpercent, hplus]
      rw [cons_append, Scanner.run_cons, hstep, ih hfront, cons_append]

theorem ne_of_mem_utf8EncodeChar {c : Char} (hpercent : c ≠ '%') (hplus : c ≠ '+') :
    ∀ b ∈ String.utf8EncodeChar c, b ≠ 0x25 ∧ b ≠ 0x2B := by
  intro b hb
  constructor
  · rintro rfl
    exact hpercent (Char.toNat_inj.mp (Text.Utf8.toNat_eq_of_mem hb (by decide)).symm)
  · rintro rfl
    exact hplus (Char.toNat_inj.mp (Text.Utf8.toNat_eq_of_mem hb (by decide)).symm)

/-- An escape stands for its byte, whatever follows. -/
theorem run_escape {b : UInt8} {high low : Char} (hhigh : Text.HexDigit (b.toNat / 16) high)
    (hlow : Text.HexDigit (b.toNat % 16) low) (rest : List Char) :
    scanner.run (Text.Utf8.encodeChars ('%' :: high :: low :: rest)) =
      b :: scanner.run (Text.Utf8.encodeChars rest) := by
  obtain ⟨-, hhigh', -⟩ := hhigh.spec
  obtain ⟨-, hlow', -⟩ := hlow.spec
  have hbytes : Text.Utf8.encodeChars ('%' :: high :: low :: rest) =
      0x25 :: UInt8.ofNat high.toNat :: UInt8.ofNat low.toNat :: Text.Utf8.encodeChars rest := by
    rw [Text.Utf8.encodeChars_cons, Text.Utf8.encodeChars_cons, Text.Utf8.encodeChars_cons,
      Text.Utf8.utf8EncodeChar_of_ascii (Nat.le_of_lt_succ hhigh'),
      Text.Utf8.utf8EncodeChar_of_ascii (Nat.le_of_lt_succ hlow')]
    rfl
  have hvalue : UInt8.ofNat (b.toNat / 16) * 16 + UInt8.ofNat (b.toNat % 16) = b := by
    have hb := b.toNat_lt
    apply UInt8.toNat_inj.mp
    simp only [UInt8.toNat_add, UInt8.toNat_mul, UInt8.toNat_ofNat', UInt8.toNat_ofNat]
    omega
  have hstep : scanner.step 0x25
      (UInt8.ofNat high.toNat :: UInt8.ofNat low.toNat :: Text.Utf8.encodeChars rest) =
        (b, Text.Utf8.encodeChars rest) := by
    change decodeByte 0x25
      (UInt8.ofNat high.toNat :: UInt8.ofNat low.toNat :: Text.Utf8.encodeChars rest) = _
    simp [decodeByte, hexByte?_of_hexDigit hhigh, hexByte?_of_hexDigit hlow, hvalue]
  rw [hbytes, Scanner.run_cons, hstep]

theorem run_escapes {bytes : Bytes} {escape : List Char} (h : Escapes bytes escape)
    (rest : List Char) :
    scanner.run (Text.Utf8.encodeChars (escape ++ rest)) =
      bytes ++ scanner.run (Text.Utf8.encodeChars rest) := by
  induction h with
  | nil => rfl
  | cons hhigh hlow more ih =>
      rw [cons_append, cons_append, cons_append, run_escape hhigh hlow, ih, cons_append]

section

variable {reserved cs text : List Char}

theorem run_of_encodes (hpercent : '%' ∈ reserved) (hplus : '+' ∈ reserved)
    (h : Encodes reserved cs text) :
    scanner.run (Text.Utf8.encodeChars text) = Text.Utf8.encodeChars cs := by
  induction h with
  | nil => exact scanner.run_nil
  | bare h more ih =>
      have hbytes := ne_of_mem_utf8EncodeChar (ne_of_mem_of_not_mem hpercent h).symm
        (ne_of_mem_of_not_mem hplus h).symm
      rw [Text.Utf8.encodeChars_cons, run_append_of_ne hbytes, ih, Text.Utf8.encodeChars_cons]
  | escaped h more ih => rw [run_escapes h, ih, Text.Utf8.encodeChars_cons]
  | @plus cs text more ih =>
      have hbytes : Text.Utf8.encodeChars ('+' :: text) = 0x2B :: Text.Utf8.encodeChars text :=
        Text.Utf8.encodeChars_cons '+' text
      have hstep : ∀ rest, scanner.step 0x2B rest = (0x20, rest) := fun _ => rfl
      rw [hbytes, Scanner.run_cons, hstep, ih, Text.Utf8.encodeChars_cons]
      rfl

/-- What was encoded is decoded. -/
theorem decode_of_encodes (hpercent : '%' ∈ reserved) (hplus : '+' ∈ reserved)
    (h : Encodes reserved cs text) : decode text = String.ofList cs := by
  rw [decode, Text.Utf8.decodeLossy, run_of_encodes hpercent hplus h,
    Text.Utf8.decodeCharsLossy_encodeChars]

theorem notMem_of_escapes {bytes : Bytes} {escape : List Char} {mark : Char}
    (hmark : mark.isAlphanum = false) (hpercent : mark ≠ '%') (h : Escapes bytes escape) :
    mark ∉ escape := by
  induction h with
  | nil => exact not_mem_nil
  | cons hhigh hlow more ih =>
      have hdigit : ∀ {n c}, Text.HexDigit n c → mark ≠ c := by
        rintro n c hc rfl
        exact absurd hc.spec.1 (by simp [hmark])
      simp [hpercent, hdigit hhigh, hdigit hlow, ih]

/-- A mark that is reserved does not occur in what encodes characters. -/
theorem notMem_of_encodes {mark : Char} (hmark : mark.isAlphanum = false) (hpercent : mark ≠ '%')
    (hplus : mark ≠ '+') (hreserved : mark ∈ reserved) (h : Encodes reserved cs text) :
    mark ∉ text := by
  induction h with
  | nil => exact not_mem_nil
  | bare h more ih => simp [ne_of_mem_of_not_mem hreserved h, ih]
  | escaped h more ih => simp [notMem_of_escapes hmark hpercent h, ih]
  | plus more ih => simp [hplus, ih]

end

/-- Plain characters stand for themselves. -/
theorem decode_of_plain {cs : List Char} (h : ∀ c ∈ cs, Plain c) :
    decode cs = String.ofList cs := by
  have hencodes : Encodes ['%', '+'] cs cs := by
    induction cs with
    | nil => exact .nil
    | cons c cs ih =>
        obtain ⟨⟨-, hpercent, hplus⟩, hcs⟩ := forall_mem_cons.mp h
        exact .bare (by simp [hpercent, hplus]) (ih hcs)
  exact decode_of_encodes (by simp) (by simp) hencodes

/-! ## Pairs -/

theorem pairs_append (front back : List Char) :
    pairs (front ++ '&' :: back) = pairs front ++ pairs back := by
  rw [pairs, Text.fields_append, filter_append, map_append]
  rfl

theorem pairs_of_notMem {segment : List Char} (h : '&' ∉ segment) (hne : segment ≠ []) :
    pairs segment = [pair segment] := by
  rw [pairs, Text.fields_of_notMem h]
  simp [hne]

/-- The first equals sign ends the name. -/
theorem pair_append {name : List Char} (h : '=' ∉ name) (value : List Char) :
    pair (name ++ '=' :: value) = (decode name, decode value) := by
  rw [pair, Text.cutAt_append h]
  rfl

end Form

end TrafficCapture
