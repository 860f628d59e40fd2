import TrafficCapture.Proofs.Text.Utf8

/-! # Mending

What any bytes become when they are read as text and the text is encoded again: characters stay
what they are, and each maximal ill-formed stretch becomes the encoding of one replacement
character. Well-formed bytes, and no others, come out unchanged. -/

namespace TrafficCapture.Text.Utf8

open List

/-! ## Ill-formed stretches -/

/-- A stretch that is replaced where `rest` follows it: no character stands there, and the stretch
is the longest front that begins a character, or one byte if no front does. -/
structure Stray (stretch rest : Bytes) : Prop where
  ne_nil : stretch ≠ []
  illFormed : ∀ c, ¬ String.utf8EncodeChar c <+: stretch ++ rest
  part : stretch.length = 1 ∨ ∃ c, stretch <+: String.utf8EncodeChar c
  maximal : ∀ front, front <+: stretch ++ rest → (∃ c, front <+: String.utf8EncodeChar c) →
    front.length ≤ stretch.length

/-- Where there is a stretch to be replaced, there is one alone. -/
theorem Stray.unique {stretch stretch' rest rest' : Bytes} (h : Stray stretch rest)
    (h' : Stray stretch' rest') (he : stretch ++ rest = stretch' ++ rest') :
    stretch = stretch' ∧ rest = rest' := by
  have hle {s s' r r' : Bytes} (hs : Stray s r) (hs' : Stray s' r') (he : s ++ r = s' ++ r') :
      s.length ≤ s'.length := by
    rcases hs.part with hone | hpart
    · have hpos := length_pos_iff.mpr hs'.ne_nil
      omega
    · apply hs'.maximal s _ hpart
      rw [← he]
      exact prefix_append s r
  exact append_inj he (Nat.le_antisymm (hle h h' he) (hle h' h he.symm))

/-- What becomes of bytes when they are read as text and encoded again. -/
inductive Mended : Bytes → Bytes → Prop
  | nil : Mended [] []
  | kept (c : Char) {rest mended : Bytes} (more : Mended rest mended) :
      Mended (String.utf8EncodeChar c ++ rest) (String.utf8EncodeChar c ++ mended)
  | replaced {stretch rest mended : Bytes} (h : Stray stretch rest) (more : Mended rest mended) :
      Mended (stretch ++ rest) (String.utf8EncodeChar replacement ++ mended)

/-! ## Unfinished characters -/

theorem exists_continueWith_eq_true (low high : UInt8) (h : low ≤ high) (count bits : ℕ) :
    ∃ filler bits', continueWith low high count bits filler = (true, bits', []) := by
  induction count generalizing low high bits with
  | zero => exact ⟨[], bits, rfl⟩
  | succ count ih =>
      obtain ⟨filler, bits', hfiller⟩ := ih 0x80 0xBF (by decide) (bits * 64 + (low.toNat - 0x80))
      refine ⟨low :: filler, bits', ?_⟩
      rw [continueWith, if_pos (by simpa using h), hfiller]

/-- A continuation that breaks off could have gone on, but not with the byte that stands there. -/
theorem continueWith_eq_false {low high : UInt8} {count bits bits' : ℕ} {rest rest' : Bytes}
    (hrange : low ≤ high) (h : continueWith low high count bits rest = (false, bits', rest')) :
    ∃ front, rest = front ++ rest' ∧
      (∃ filler whole, continueWith low high count bits (front ++ filler) = (true, whole, [])) ∧
      ∀ b, rest'.head? = some b → ∀ more,
        (continueWith low high count bits (front ++ b :: more)).1 = false := by
  induction count generalizing low high bits rest with
  | zero => cases h
  | succ count ih =>
      cases rest with
      | nil =>
          cases h
          exact ⟨[], rfl, exists_continueWith_eq_true low high hrange _ _, nofun⟩
      | cons b rest =>
          rw [continueWith] at h
          split at h
          · rename_i hb
            obtain ⟨front, rfl, ⟨filler, whole, hfiller⟩, hbroken⟩ := ih (by decide) h
            refine ⟨b :: front, rfl, ⟨filler, whole, ?_⟩, ?_⟩
            · rw [cons_append, continueWith, if_pos hb, hfiller]
            · intro b' hb' more
              rw [cons_append, continueWith, if_pos hb]
              exact hbroken b' hb' more
          · rename_i hb
            cases h
            refine ⟨[], rfl, exists_continueWith_eq_true low high hrange _ _, ?_⟩
            intro b' hb' more
            cases hb'
            rw [nil_append, continueWith, if_neg hb]

theorem le_of_continuation? {b low high : UInt8} {count : ℕ}
    (h : continuation? b = some (count, low, high)) : low ≤ high := by
  unfold continuation? at h
  (repeat' split at h) <;> cases h <;> decide

theorem next_of_continuation? {b low high : UInt8} {count : ℕ} (hhigh : ¬ b < 0x80)
    (h : continuation? b = some (count, low, high)) (rest : Bytes) :
    next b rest =
      (if (continueWith low high count (leadBits b count) rest).1 then
          some (Char.ofNat (continueWith low high count (leadBits b count) rest).2.1) else none,
        (continueWith low high count (leadBits b count) rest).2.2) := by
  rw [next, if_neg hhigh, h]
  rcases hrest : continueWith low high count (leadBits b count) rest with ⟨_ | _, bits, left⟩
  · simp only [hrest, Bool.false_eq_true, if_false]
  · simp only [hrest, if_true]

/-- Behind a leading byte that begins no character, some front of one may stand. It could have gone
on, but not with the byte that stands there. -/
theorem next_eq_none {b : UInt8} {rest rest' : Bytes} (h : next b rest = (none, rest')) :
    ∃ front, rest = front ++ rest' ∧
      (front = [] ∨ ∃ filler c, next b (front ++ filler) = (some c, [])) ∧
      ∀ b', rest'.head? = some b' → ∀ more, (next b (front ++ b' :: more)).1 = none := by
  by_cases hhigh : b < 0x80
  · rw [next, if_pos hhigh] at h
    cases h
  cases hlead : continuation? b with
  | none =>
      have hnone (rest : Bytes) : next b rest = (none, rest) := by
        rw [next, if_neg hhigh, hlead]
      rw [hnone] at h
      cases h
      exact ⟨[], rfl, .inl rfl, fun _ _ more => by rw [hnone]⟩
  | some lead =>
      obtain ⟨count, low, high⟩ := lead
      have hnext := next_of_continuation? hhigh hlead
      rw [hnext] at h
      rcases hbroken : continueWith low high count (leadBits b count) rest with ⟨_ | _, bits, left⟩
      · rw [hbroken] at h
        cases h
        obtain ⟨front, hfront, ⟨filler, whole, hfiller⟩, hnone⟩ :=
          continueWith_eq_false (le_of_continuation? hlead) hbroken
        refine ⟨front, hfront, .inr ⟨filler, Char.ofNat whole, ?_⟩, ?_⟩
        · rw [hnext, hfiller]
          rfl
        · intro b' hb' more
          rw [hnext, hnone b' hb' more]
          rfl
      · rw [hbroken] at h
        cases h

/-- What is read as no character is a stretch to be replaced. -/
theorem stray_of_next {b : UInt8} {rest rest' : Bytes} (h : next b rest = (none, rest')) :
    ∃ stretch, b :: rest = stretch ++ rest' ∧ Stray stretch rest' := by
  obtain ⟨front, rfl, hpart, hstop⟩ := next_eq_none h
  refine ⟨b :: front, rfl, cons_ne_nil b front, ?_, ?_, ?_⟩
  · rintro c ⟨behind, hc⟩
    obtain ⟨lead, more, hencoded, hnext⟩ := next_utf8EncodeChar c
    rw [hencoded, cons_append, cons_append, cons.injEq] at hc
    obtain ⟨rfl, hmore⟩ := hc
    rw [← hmore, hnext] at h
    cases h
  · rcases hpart with rfl | ⟨filler, c, hnext⟩
    · exact .inl rfl
    · have hwhole := eq_of_next hnext
      rw [append_nil] at hwhole
      exact .inr ⟨c, filler, by rw [← hwhole, cons_append]⟩
  · rintro longer hbegins ⟨c, tail, htail⟩
    refine Nat.le_of_not_lt fun hlength => ?_
    obtain ⟨beyond, rfl⟩ := prefix_of_prefix_length_le (prefix_append _ _) hbegins
      (Nat.le_of_lt hlength)
    obtain ⟨b', beyond, rfl⟩ := exists_cons_of_ne_nil (l := beyond) (by
      rintro rfl
      simp at hlength)
    obtain ⟨left, hleft⟩ := hbegins
    rw [append_assoc, append_cancel_left_eq] at hleft
    obtain ⟨lead, more, hencoded, hnext⟩ := next_utf8EncodeChar c
    rw [hencoded, cons_append, cons_append, cons.injEq] at htail
    obtain ⟨rfl, hmore⟩ := htail
    have hread := hstop b' (by rw [← hleft]; rfl) (beyond ++ tail)
    rw [append_assoc, cons_append] at hmore
    rw [hmore, ← append_nil more, hnext] at hread
    cases hread

/-! ## Whole texts -/

theorem decodeCharsLossy_nil : decodeCharsLossy [] = [] := by
  rw [decodeCharsLossy, Scanner.run_nil, map_nil]

theorem decodeCharsLossy_cons (b : UInt8) (rest : Bytes) :
    decodeCharsLossy (b :: rest) =
      (next b rest).1.getD replacement :: decodeCharsLossy (next b rest).2 := by
  rw [decodeCharsLossy, Scanner.run_cons, map_cons]
  rfl

theorem mended_decodeCharsLossy (bytes : Bytes) :
    Mended bytes (encodeChars (decodeCharsLossy bytes)) := by
  match bytes with
  | [] =>
      rw [decodeCharsLossy_nil]
      exact .nil
  | b :: rest =>
      have hshorter := next_length b rest
      have hmore := mended_decodeCharsLossy (next b rest).2
      rw [decodeCharsLossy_cons, encodeChars_cons]
      rcases hnext : next b rest with ⟨_ | c, left⟩
      · rw [hnext] at hmore
        obtain ⟨stretch, hstretch, hstray⟩ := stray_of_next hnext
        rw [hstretch]
        exact .replaced hstray hmore
      · rw [hnext] at hmore
        rw [eq_of_next hnext]
        exact .kept c hmore
termination_by bytes.length
decreasing_by exact Nat.lt_succ_of_le hshorter

theorem Mended.eq_encodeChars {bytes mended : Bytes} (h : Mended bytes mended) :
    mended = encodeChars (decodeCharsLossy bytes) := by
  induction h with
  | nil => rw [decodeCharsLossy_nil, encodeChars, flatMap_nil]
  | @kept c rest mended more ih =>
      obtain ⟨b, tail, hencoded, hnext⟩ := next_utf8EncodeChar c
      have hread : decodeCharsLossy (String.utf8EncodeChar c ++ rest) =
          c :: decodeCharsLossy rest := by
        rw [hencoded, cons_append, decodeCharsLossy_cons, hnext]
        rfl
      rw [hread, encodeChars_cons, ih]
  | @replaced stretch rest mended h more ih =>
      obtain ⟨b, tail, rfl⟩ := exists_cons_of_ne_nil h.ne_nil
      rcases hnext : next b (tail ++ rest) with ⟨_ | c, left⟩
      · obtain ⟨stretch', heq, h'⟩ := stray_of_next hnext
        obtain ⟨-, rfl⟩ := h.unique h' heq
        rw [cons_append, decodeCharsLossy_cons, hnext, encodeChars_cons, ih]
        rfl
      · exact (h.illFormed c ⟨left, (eq_of_next hnext).symm⟩).elim

/-- Mended bytes are those that the text encodes which the bytes are read as. -/
theorem mended_iff {bytes mended : Bytes} :
    Mended bytes mended ↔ mended = encode (decodeLossy bytes) := by
  rw [encode, decodeLossy, String.toList_ofList]
  constructor
  · exact Mended.eq_encodeChars
  · rintro rfl
    exact mended_decodeCharsLossy bytes

theorem decodeLossy_encode (text : String) : decodeLossy (encode text) = text := by
  rw [decodeLossy, encode, decodeCharsLossy_encodeChars, String.ofList_toList]

theorem encode_inj {text text' : String} : encode text = encode text' ↔ text = text' := by
  constructor
  · intro h
    rw [← decodeLossy_encode text, h, decodeLossy_encode]
  · exact congrArg encode

/-- Bytes are left as they are if they encode a text, and only then. -/
theorem encode_decodeLossy_eq_iff {bytes : Bytes} :
    encode (decodeLossy bytes) = bytes ↔ WellFormed bytes := by
  constructor
  · intro h
    exact ⟨decodeLossy bytes, h.symm⟩
  · rintro ⟨text, rfl⟩
    rw [decodeLossy_encode]

theorem Mended.eq_iff {bytes mended : Bytes} (h : Mended bytes mended) :
    mended = bytes ↔ WellFormed bytes := by
  rw [mended_iff.mp h, encode_decodeLossy_eq_iff]

section

variable {bytes mended : Bytes}

/-- A mended byte is one of those that were there, or belongs to a replacement. -/
theorem Mended.mem (h : Mended bytes mended) {b : UInt8} (hb : b ∈ mended) :
    b ∈ bytes ∨ b ∈ String.utf8EncodeChar replacement := by
  induction h with
  | nil => exact .inl hb
  | kept c more ih =>
      rcases mem_append.mp hb with hb | hb
      · exact .inl (mem_append_left _ hb)
      · exact (ih hb).imp_left (mem_append_right _)
  | replaced h more ih =>
      rcases mem_append.mp hb with hb | hb
      · exact .inr hb
      · exact (ih hb).imp_left (mem_append_right _)

theorem Mended.mem_head? (h : Mended bytes mended) {b : UInt8} (hb : b ∈ mended.head?) :
    b ∈ bytes.head? ∨ b ∈ String.utf8EncodeChar replacement := by
  cases h with
  | nil => exact .inl hb
  | kept c more =>
      obtain ⟨lead, tail, hencoded, -⟩ := next_utf8EncodeChar c
      rw [hencoded, cons_append, head?_cons] at hb ⊢
      exact .inl hb
  | replaced h more =>
      obtain ⟨lead, tail, hencoded, -⟩ := next_utf8EncodeChar replacement
      rw [hencoded, cons_append, head?_cons, Option.mem_some] at hb
      rw [hencoded, ← hb]
      exact .inr mem_cons_self

theorem Mended.eq_nil_of_eq_nil (h : Mended bytes mended) (hnil : mended = []) : bytes = [] := by
  have hne (c : Char) : String.utf8EncodeChar c ≠ [] := by
    obtain ⟨lead, tail, hencoded, -⟩ := next_utf8EncodeChar c
    rw [hencoded]
    exact cons_ne_nil lead tail
  cases h with
  | nil => rfl
  | kept c more => exact (hne c (append_eq_nil_iff.mp hnil).1).elim
  | replaced h more => exact (hne replacement (append_eq_nil_iff.mp hnil).1).elim

theorem Mended.mem_getLast? (h : Mended bytes mended) {b : UInt8} (hb : b ∈ mended.getLast?) :
    b ∈ bytes.getLast? ∨ b ∈ String.utf8EncodeChar replacement := by
  simp only [Option.mem_def] at hb ⊢
  induction h with
  | nil => exact .inl hb
  | kept c more ih =>
      rw [getLast?_append, Option.or_eq_some_iff] at hb ⊢
      rcases hb with hb | ⟨hnone, hb⟩
      · exact (ih hb).imp_left .inl
      · rw [getLast?_eq_none_iff] at hnone ⊢
        exact .inl (.inr ⟨more.eq_nil_of_eq_nil hnone, hb⟩)
  | replaced h more ih =>
      rw [getLast?_append, Option.or_eq_some_iff] at hb ⊢
      rcases hb with hb | ⟨-, hb⟩
      · exact (ih hb).imp_left .inl
      · exact .inr (mem_of_getLast? hb)

end

end TrafficCapture.Text.Utf8
