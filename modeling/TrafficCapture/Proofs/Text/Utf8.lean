import Mathlib.Data.Nat.Notation
import TrafficCapture.Text.Utf8

/-! # UTF-8

Strict decoding is the inverse of encoding: bytes are read as a text if and only if they are its
encoding. -/

namespace TrafficCapture.Text.Utf8

open List

/-! ## Bytes as numbers -/

theorem toNat_ofNat_of_lt {n : ℕ} (hn : n < 256) : (UInt8.ofNat n).toNat = n := by
  rw [UInt8.toNat_ofNat']
  exact Nat.mod_eq_of_lt hn

/-- Every byte is the number of a character. -/
theorem toNat_char (b : UInt8) : (Char.ofNat b.toNat).toNat = b.toNat := by
  have hvalid : b.toNat.isValidChar := .inl (Nat.lt_trans b.toNat_lt (by decide))
  rw [Char.ofNat, dif_pos hvalid]
  rfl

/-- What a leading byte asks for, by the number that it is. -/
theorem continuation?_ofNat {n : ℕ} (hn : n < 256) :
    continuation? (UInt8.ofNat n) =
      if 0xC2 ≤ n ∧ n ≤ 0xDF then some (1, 0x80, 0xBF)
      else if n = 0xE0 then some (2, 0xA0, 0xBF)
      else if n = 0xED then some (2, 0x80, 0x9F)
      else if 0xE1 ≤ n ∧ n ≤ 0xEF then some (2, 0x80, 0xBF)
      else if n = 0xF0 then some (3, 0x90, 0xBF)
      else if 0xF1 ≤ n ∧ n ≤ 0xF3 then some (3, 0x80, 0xBF)
      else if n = 0xF4 then some (3, 0x80, 0x8F)
      else none := by
  simp only [continuation?, UInt8.le_iff_toNat_le, ← UInt8.toNat_inj, beq_iff_eq,
    toNat_ofNat_of_lt hn, Bool.and_eq_true, decide_eq_true_eq]
  rfl

theorem leadBits_ofNat_one {n : ℕ} (hn : n < 256) : leadBits (UInt8.ofNat n) 1 = n - 0xC0 :=
  congrArg (· - 0xC0) (toNat_ofNat_of_lt hn)

theorem leadBits_ofNat_two {n : ℕ} (hn : n < 256) : leadBits (UInt8.ofNat n) 2 = n - 0xE0 :=
  congrArg (· - 0xE0) (toNat_ofNat_of_lt hn)

theorem leadBits_ofNat_three {n : ℕ} (hn : n < 256) : leadBits (UInt8.ofNat n) 3 = n - 0xF0 :=
  congrArg (· - 0xF0) (toNat_ofNat_of_lt hn)

/-! ## Continuation bytes -/

theorem continueWith_ofNat {low high : UInt8} {n : ℕ} (hn : n < 256) (hlow : low.toNat ≤ n)
    (hhigh : n ≤ high.toNat) (count bits : ℕ) (rest : Bytes) :
    continueWith low high (count + 1) bits (UInt8.ofNat n :: rest) =
      continueWith 0x80 0xBF count (bits * 64 + (n - 0x80)) rest := by
  have hrange : (decide (low ≤ UInt8.ofNat n) && decide (UInt8.ofNat n ≤ high)) = true := by
    simp [UInt8.le_iff_toNat_le, toNat_ofNat_of_lt hn, hlow, hhigh]
  rw [continueWith, if_pos hrange, toNat_ofNat_of_lt hn]

/-- A continuation that is whole begins with a byte of the range. -/
theorem continueWith_eq_true {low high : UInt8} {count bits bits' : ℕ} {rest rest' : Bytes}
    (h : continueWith low high (count + 1) bits rest = (true, bits', rest')) :
    ∃ n more, rest = UInt8.ofNat n :: more ∧ low.toNat ≤ n ∧ n ≤ high.toNat ∧
      continueWith 0x80 0xBF count (bits * 64 + (n - 0x80)) more = (true, bits', rest') := by
  cases rest with
  | nil => cases h
  | cons b more =>
      rw [continueWith] at h
      split at h
      · rename_i hrange
        simp only [UInt8.le_iff_toNat_le, Bool.and_eq_true, decide_eq_true_eq] at hrange
        exact ⟨b.toNat, more, by rw [UInt8.ofNat_toNat], hrange.1, hrange.2, h⟩
      · cases h

theorem continueWith_zero {low high : UInt8} {bits bits' : ℕ} {rest rest' : Bytes}
    (h : continueWith low high 0 bits rest = (true, bits', rest')) :
    bits' = bits ∧ rest' = rest := by
  cases h
  exact ⟨rfl, rfl⟩

/-! ## Reading what was encoded -/

/-- A character whose leading byte is followed by the continuation that it asks for. -/
theorem next_ofNat {n count : ℕ} {low high : UInt8} (hn : n < 256) (hlead : 0x80 ≤ n)
    (hc : continuation? (UInt8.ofNat n) = some (count, low, high)) {rest rest' : Bytes} {bits : ℕ}
    (h : continueWith low high count (leadBits (UInt8.ofNat n) count) rest = (true, bits, rest')) :
    next (UInt8.ofNat n) rest = (some (Char.ofNat bits), rest') := by
  have hnot : ¬ UInt8.ofNat n < 0x80 := by
    rw [UInt8.lt_iff_toNat_lt, toNat_ofNat_of_lt hn]
    exact Nat.not_lt.mpr hlead
  rw [next, if_neg hnot, hc]
  simp only [h]

section

variable {v : ℕ}

theorem next_one (h : v ≤ 0x7F) (rest : Bytes) :
    next (UInt8.ofNat v) rest = (some (Char.ofNat v), rest) := by
  have hlt : UInt8.ofNat v < 0x80 := by
    rw [UInt8.lt_iff_toNat_lt, toNat_ofNat_of_lt (by omega)]
    exact Nat.lt_succ_of_le h
  rw [next, if_pos hlt, toNat_ofNat_of_lt (by omega)]

theorem next_two (h : 0x7F < v) (h' : v ≤ 0x7FF) (rest : Bytes) :
    next (UInt8.ofNat (v / 64 % 32 + 192)) (UInt8.ofNat (v % 64 + 128) :: rest) =
      (some (Char.ofNat v), rest) := by
  have hn : v / 64 % 32 + 192 < 256 := by omega
  have hlead := continuation?_ofNat hn
  rw [if_pos (by omega)] at hlead
  have hbits : (v / 64 % 32 + 192 - 0xC0) * 64 + (v % 64 + 128 - 0x80) = v := by omega
  apply next_ofNat hn (by omega) hlead
  rw [leadBits_ofNat_one hn, continueWith_ofNat (by omega) (by simp) (by simp; omega), hbits,
    continueWith]

/-- The first continuation byte keeps out short forms and halves of pairs. -/
theorem next_three (h : 0x7FF < v) (h' : v ≤ 0xFFFF) (hpair : v < 0xD800 ∨ 0xDFFF < v)
    (rest : Bytes) :
    next (UInt8.ofNat (v / 4096 % 16 + 224))
        (UInt8.ofNat (v / 64 % 64 + 128) :: UInt8.ofNat (v % 64 + 128) :: rest) =
      (some (Char.ofNat v), rest) := by
  have hn : v / 4096 % 16 + 224 < 256 := by omega
  obtain ⟨low, high, hlead, hlow, hhigh⟩ : ∃ low high,
      continuation? (UInt8.ofNat (v / 4096 % 16 + 224)) = some (2, low, high) ∧
        low.toNat ≤ v / 64 % 64 + 128 ∧ v / 64 % 64 + 128 ≤ high.toNat := by
    rw [continuation?_ofNat hn, if_neg (by omega)]
    by_cases hshort : v / 4096 % 16 + 224 = 0xE0
    · rw [if_pos hshort]
      exact ⟨_, _, rfl, by simp; omega, by simp; omega⟩
    by_cases hhalf : v / 4096 % 16 + 224 = 0xED
    · rw [if_neg hshort, if_pos hhalf]
      exact ⟨_, _, rfl, by simp, by simp; omega⟩
    · rw [if_neg hshort, if_neg hhalf, if_pos (by omega)]
      exact ⟨_, _, rfl, by simp, by simp; omega⟩
  have hbits : ((v / 4096 % 16 + 224 - 0xE0) * 64 + (v / 64 % 64 + 128 - 0x80)) * 64 +
      (v % 64 + 128 - 0x80) = v := by omega
  apply next_ofNat hn (by omega) hlead
  rw [leadBits_ofNat_two hn, continueWith_ofNat (by omega) hlow hhigh,
    continueWith_ofNat (by omega) (by simp) (by simp; omega), hbits, continueWith]

/-- The first continuation byte keeps out short forms and numbers beyond all characters. -/
theorem next_four (h : 0xFFFF < v) (h' : v < 0x110000) (rest : Bytes) :
    next (UInt8.ofNat (v / 262144 % 8 + 240))
        (UInt8.ofNat (v / 4096 % 64 + 128) :: UInt8.ofNat (v / 64 % 64 + 128) ::
          UInt8.ofNat (v % 64 + 128) :: rest) =
      (some (Char.ofNat v), rest) := by
  have hn : v / 262144 % 8 + 240 < 256 := by omega
  obtain ⟨low, high, hlead, hlow, hhigh⟩ : ∃ low high,
      continuation? (UInt8.ofNat (v / 262144 % 8 + 240)) = some (3, low, high) ∧
        low.toNat ≤ v / 4096 % 64 + 128 ∧ v / 4096 % 64 + 128 ≤ high.toNat := by
    rw [continuation?_ofNat hn, if_neg (by omega), if_neg (by omega), if_neg (by omega),
      if_neg (by omega)]
    by_cases hshort : v / 262144 % 8 + 240 = 0xF0
    · rw [if_pos hshort]
      exact ⟨_, _, rfl, by simp; omega, by simp; omega⟩
    by_cases hmiddle : 0xF1 ≤ v / 262144 % 8 + 240 ∧ v / 262144 % 8 + 240 ≤ 0xF3
    · rw [if_neg hshort, if_pos hmiddle]
      exact ⟨_, _, rfl, by simp, by simp; omega⟩
    · rw [if_neg hshort, if_neg hmiddle, if_pos (by omega)]
      exact ⟨_, _, rfl, by simp, by simp; omega⟩
  have hbits : (((v / 262144 % 8 + 240 - 0xF0) * 64 + (v / 4096 % 64 + 128 - 0x80)) * 64 +
      (v / 64 % 64 + 128 - 0x80)) * 64 + (v % 64 + 128 - 0x80) = v := by omega
  apply next_ofNat hn (by omega) hlead
  rw [leadBits_ofNat_three hn, continueWith_ofNat (by omega) hlow hhigh,
    continueWith_ofNat (by omega) (by simp) (by simp; omega),
    continueWith_ofNat (by omega) (by simp) (by simp; omega), hbits, continueWith]

end

theorem utf8EncodeChar_ofNat {v : ℕ} (h : v.isValidChar) :
    String.utf8EncodeChar (Char.ofNat v) =
      if v ≤ 0x7F then [UInt8.ofNat v]
      else if v ≤ 0x7FF then [UInt8.ofNat (v / 64 % 32 + 192), UInt8.ofNat (v % 64 + 128)]
      else if v ≤ 0xFFFF then
        [UInt8.ofNat (v / 4096 % 16 + 224), UInt8.ofNat (v / 64 % 64 + 128),
          UInt8.ofNat (v % 64 + 128)]
      else
        [UInt8.ofNat (v / 262144 % 8 + 240), UInt8.ofNat (v / 4096 % 64 + 128),
          UInt8.ofNat (v / 64 % 64 + 128), UInt8.ofNat (v % 64 + 128)] := by
  have hv : (Char.ofNat v).val.toNat = v := by
    rw [Char.ofNat, dif_pos h]
    rfl
  rw [String.utf8EncodeChar, hv]

theorem next_utf8EncodeChar_ofNat {v : ℕ} (h : v.isValidChar) :
    ∃ b more, String.utf8EncodeChar (Char.ofNat v) = b :: more ∧
      ∀ rest, next b (more ++ rest) = (some (Char.ofNat v), rest) := by
  rw [utf8EncodeChar_ofNat h]
  unfold Nat.isValidChar at h
  by_cases hone : v ≤ 0x7F
  · rw [if_pos hone]
    exact ⟨_, _, rfl, next_one hone⟩
  by_cases htwo : v ≤ 0x7FF
  · rw [if_neg hone, if_pos htwo]
    exact ⟨_, _, rfl, next_two (by omega) htwo⟩
  by_cases hthree : v ≤ 0xFFFF
  · rw [if_neg hone, if_neg htwo, if_pos hthree]
    exact ⟨_, _, rfl, next_three (by omega) hthree (by omega)⟩
  · rw [if_neg hone, if_neg htwo, if_neg hthree]
    exact ⟨_, _, rfl, next_four (by omega) (by omega)⟩

theorem utf8EncodeChar_of_ascii {c : Char} (h : c.toNat ≤ 0x7F) :
    String.utf8EncodeChar c = [UInt8.ofNat c.toNat] := by
  have hone : c.val.toNat ≤ 0x7F := h
  have hencoded := utf8EncodeChar_ofNat c.valid
  rw [show Char.ofNat c.val.toNat = c from Char.ofNat_toNat c, if_pos hone] at hencoded
  exact hencoded

theorem high_ofNat {n : ℕ} (h : 0x80 ≤ n) (hn : n < 256) : 0x80 ≤ (UInt8.ofNat n).toNat := by
  rwa [toNat_ofNat_of_lt hn]

/-- Every byte of a longer encoding has its highest bit set. -/
theorem high_of_mem {c : Char} (h : 0x7F < c.toNat) {b : UInt8}
    (hb : b ∈ String.utf8EncodeChar c) : 0x80 ≤ b.toNat := by
  have hlong : ¬ c.val.toNat ≤ 0x7F := Nat.not_le_of_lt h
  have hencoded := utf8EncodeChar_ofNat c.valid
  rw [show Char.ofNat c.val.toNat = c from Char.ofNat_toNat c, if_neg hlong] at hencoded
  rw [hencoded] at hb
  split at hb
  · simp only [mem_cons, not_mem_nil, or_false] at hb
    rcases hb with rfl | rfl <;> exact high_ofNat (by omega) (by omega)
  split at hb
  · simp only [mem_cons, not_mem_nil, or_false] at hb
    rcases hb with rfl | rfl | rfl <;> exact high_ofNat (by omega) (by omega)
  · simp only [mem_cons, not_mem_nil, or_false] at hb
    rcases hb with rfl | rfl | rfl | rfl <;> exact high_ofNat (by omega) (by omega)

/-- A byte of ASCII occurs in the encoding of its own character only. -/
theorem toNat_eq_of_mem {c : Char} {b : UInt8} (h : b ∈ String.utf8EncodeChar c)
    (hb : b.toNat < 0x80) : b.toNat = c.toNat := by
  by_cases hc : c.toNat ≤ 0x7F
  · rw [utf8EncodeChar_of_ascii hc, mem_singleton] at h
    rw [h, toNat_ofNat_of_lt (by omega)]
  · have hhigh := high_of_mem (Nat.lt_of_not_le hc) h
    omega

/-- A character is read off its encoding, whatever follows. -/
theorem next_utf8EncodeChar (c : Char) :
    ∃ b more, String.utf8EncodeChar c = b :: more ∧
      ∀ rest, next b (more ++ rest) = (some c, rest) := by
  have hread := next_utf8EncodeChar_ofNat c.valid
  rwa [show Char.ofNat c.val.toNat = c from Char.ofNat_toNat c] at hread

/-! ## Encoding what was read -/

/-- What follows a leading byte, so that what is read is a character in its shortest form. -/
inductive Leads (n : ℕ) : ℕ → UInt8 → UInt8 → Prop
  | two (h : 0xC2 ≤ n) (h' : n ≤ 0xDF) : Leads n 1 0x80 0xBF
  | three {low high : UInt8} (h : 0xE0 ≤ n) (h' : n ≤ 0xEF) (hlow : 0x80 ≤ low.toNat)
      (hhigh : high.toNat ≤ 0xBF) (short : n = 0xE0 → 0xA0 ≤ low.toNat)
      (half : n = 0xED → high.toNat ≤ 0x9F) : Leads n 2 low high
  | four {low high : UInt8} (h : 0xF0 ≤ n) (h' : n ≤ 0xF4) (hlow : 0x80 ≤ low.toNat)
      (hhigh : high.toNat ≤ 0xBF) (short : n = 0xF0 → 0x90 ≤ low.toNat)
      (beyond : n = 0xF4 → high.toNat ≤ 0x8F) : Leads n 3 low high

theorem leads_of_continuation? {n count : ℕ} {low high : UInt8} (hn : n < 256)
    (h : continuation? (UInt8.ofNat n) = some (count, low, high)) : Leads n count low high := by
  rw [continuation?_ofNat hn] at h
  split at h
  · cases h
    exact .two (by omega) (by omega)
  split at h
  · cases h
    exact .three (by omega) (by omega) (by decide) (by decide) (fun _ => by decide) (by omega)
  split at h
  · cases h
    exact .three (by omega) (by omega) (by decide) (by decide) (by omega) (fun _ => by decide)
  split at h
  · cases h
    exact .three (by omega) (by omega) (by decide) (by decide) (by omega) (by omega)
  split at h
  · cases h
    exact .four (by omega) (by omega) (by decide) (by decide) (fun _ => by decide) (by omega)
  split at h
  · cases h
    exact .four (by omega) (by omega) (by decide) (by decide) (by omega) (by omega)
  split at h
  · cases h
    exact .four (by omega) (by omega) (by decide) (by decide) (by omega) (fun _ => by decide)
  · cases h

theorem encode_two {n x : ℕ} (h : 0xC2 ≤ n) (h' : n ≤ 0xDF) (hx : 0x80 ≤ x) (hx' : x ≤ 0xBF) :
    String.utf8EncodeChar (Char.ofNat ((n - 0xC0) * 64 + (x - 0x80))) =
      [UInt8.ofNat n, UInt8.ofNat x] := by
  generalize hv : (n - 0xC0) * 64 + (x - 0x80) = v
  have hlead : v / 64 % 32 + 192 = n := by omega
  have hlast : v % 64 + 128 = x := by omega
  rw [utf8EncodeChar_ofNat (Or.inl (by omega)), if_neg (by omega), if_pos (by omega), hlead, hlast]

theorem encode_three {n x y : ℕ} (h : 0xE0 ≤ n) (h' : n ≤ 0xEF) (hx : 0x80 ≤ x) (hx' : x ≤ 0xBF)
    (hshort : n = 0xE0 → 0xA0 ≤ x) (hhalf : n = 0xED → x ≤ 0x9F) (hy : 0x80 ≤ y)
    (hy' : y ≤ 0xBF) :
    String.utf8EncodeChar (Char.ofNat (((n - 0xE0) * 64 + (x - 0x80)) * 64 + (y - 0x80))) =
      [UInt8.ofNat n, UInt8.ofNat x, UInt8.ofNat y] := by
  generalize hv : ((n - 0xE0) * 64 + (x - 0x80)) * 64 + (y - 0x80) = v
  have hscalar : v.isValidChar := by
    unfold Nat.isValidChar
    omega
  have hlead : v / 4096 % 16 + 224 = n := by omega
  have hmiddle : v / 64 % 64 + 128 = x := by omega
  have hlast : v % 64 + 128 = y := by omega
  rw [utf8EncodeChar_ofNat hscalar, if_neg (by omega), if_neg (by omega), if_pos (by omega),
    hlead, hmiddle, hlast]

theorem encode_four {n x y z : ℕ} (h : 0xF0 ≤ n) (h' : n ≤ 0xF4) (hx : 0x80 ≤ x) (hx' : x ≤ 0xBF)
    (hshort : n = 0xF0 → 0x90 ≤ x) (hbeyond : n = 0xF4 → x ≤ 0x8F) (hy : 0x80 ≤ y)
    (hy' : y ≤ 0xBF) (hz : 0x80 ≤ z) (hz' : z ≤ 0xBF) :
    String.utf8EncodeChar
        (Char.ofNat ((((n - 0xF0) * 64 + (x - 0x80)) * 64 + (y - 0x80)) * 64 + (z - 0x80))) =
      [UInt8.ofNat n, UInt8.ofNat x, UInt8.ofNat y, UInt8.ofNat z] := by
  generalize hv : (((n - 0xF0) * 64 + (x - 0x80)) * 64 + (y - 0x80)) * 64 + (z - 0x80) = v
  have hscalar : v.isValidChar := by
    unfold Nat.isValidChar
    omega
  have hlead : v / 262144 % 8 + 240 = n := by omega
  have hsecond : v / 4096 % 64 + 128 = x := by omega
  have hthird : v / 64 % 64 + 128 = y := by omega
  have hlast : v % 64 + 128 = z := by omega
  rw [utf8EncodeChar_ofNat hscalar, if_neg (by omega), if_neg (by omega), if_neg (by omega),
    hlead, hsecond, hthird, hlast]

/-- A character that was read stands there in its encoding. -/
theorem eq_of_next {b : UInt8} {rest rest' : Bytes} {c : Char}
    (h : next b rest = (some c, rest')) : b :: rest = String.utf8EncodeChar c ++ rest' := by
  obtain ⟨n, hn, rfl⟩ : ∃ n < 256, b = UInt8.ofNat n :=
    ⟨b.toNat, b.toNat_lt, UInt8.ofNat_toNat.symm⟩
  rw [next] at h
  split at h
  · rename_i hlt
    rw [UInt8.lt_iff_toNat_lt, toNat_ofNat_of_lt hn] at hlt
    cases h
    have hone : n ≤ 0x7F := Nat.le_of_lt_succ hlt
    rw [toNat_ofNat_of_lt hn, utf8EncodeChar_ofNat (Or.inl (by omega)), if_pos hone,
      singleton_append]
  split at h
  · cases h
  rename_i count low high hc
  split at h
  · rename_i bits more hwhole
    cases h
    cases leads_of_continuation? hn hc with
    | two hlow hhigh =>
        rw [leadBits_ofNat_one hn] at hwhole
        obtain ⟨x, more, rfl, hx, hx', hwhole⟩ := continueWith_eq_true hwhole
        obtain ⟨hbits, hmore⟩ := continueWith_zero hwhole
        rw [hbits, hmore, encode_two hlow hhigh hx hx', cons_append, singleton_append]
    | three hlow hhigh hleast hgreatest hshort hhalf =>
        rw [leadBits_ofNat_two hn] at hwhole
        obtain ⟨x, more, rfl, hx, hx', hwhole⟩ := continueWith_eq_true hwhole
        obtain ⟨y, more, rfl, hy, hy', hwhole⟩ := continueWith_eq_true hwhole
        obtain ⟨hbits, hmore⟩ := continueWith_zero hwhole
        rw [hbits, hmore, encode_three hlow hhigh (Nat.le_trans hleast hx)
          (Nat.le_trans hx' hgreatest) (fun h => Nat.le_trans (hshort h) hx)
          (fun h => Nat.le_trans hx' (hhalf h)) hy hy']
        rfl
    | four hlow hhigh hleast hgreatest hshort hbeyond =>
        rw [leadBits_ofNat_three hn] at hwhole
        obtain ⟨x, more, rfl, hx, hx', hwhole⟩ := continueWith_eq_true hwhole
        obtain ⟨y, more, rfl, hy, hy', hwhole⟩ := continueWith_eq_true hwhole
        obtain ⟨z, more, rfl, hz, hz', hwhole⟩ := continueWith_eq_true hwhole
        obtain ⟨hbits, hmore⟩ := continueWith_zero hwhole
        rw [hbits, hmore, encode_four hlow hhigh (Nat.le_trans hleast hx)
          (Nat.le_trans hx' hgreatest) (fun h => Nat.le_trans (hshort h) hx)
          (fun h => Nat.le_trans hx' (hbeyond h)) hy hy' hz hz']
        rfl
  · cases h

/-! ## Texts -/

theorem encodeChars_cons (c : Char) (cs : List Char) :
    encodeChars (c :: cs) = String.utf8EncodeChar c ++ encodeChars cs :=
  flatMap_cons

theorem encodeChars_append (front back : List Char) :
    encodeChars (front ++ back) = encodeChars front ++ encodeChars back :=
  flatMap_append

theorem encode_append (front back : String) :
    encode (front ++ back) = encode front ++ encode back := by
  rw [encode, String.toList_append, encodeChars_append]
  rfl

theorem run_encodeChars (cs : List Char) : scanner.run (encodeChars cs) = cs.map some := by
  induction cs with
  | nil => exact scanner.run_nil
  | cons c cs ih =>
      obtain ⟨b, more, hencoded, hnext⟩ := next_utf8EncodeChar c
      have hstep : scanner.step b (more ++ encodeChars cs) = (some c, encodeChars cs) := hnext _
      have hall : encodeChars (c :: cs) = b :: (more ++ encodeChars cs) := by
        rw [encodeChars, flatMap_cons, hencoded, cons_append]
        rfl
      rw [hall, Scanner.run_cons, hstep, ih, map_cons]

theorem eq_encodeChars_of_run {bytes : Bytes} {cs : List Char}
    (h : scanner.run bytes = cs.map some) : bytes = encodeChars cs := by
  induction cs generalizing bytes with
  | nil =>
      cases bytes with
      | nil => rfl
      | cons b rest => simp [Scanner.run_cons] at h
  | cons c cs ih =>
      cases bytes with
      | nil => simp at h
      | cons b rest =>
          rw [Scanner.run_cons, map_cons, cons.injEq] at h
          obtain ⟨hfirst, hrest⟩ := h
          have hnext : next b rest = (some c, (next b rest).2) := Prod.ext hfirst rfl
          rw [eq_of_next hnext, encodeChars, flatMap_cons]
          exact congrArg (String.utf8EncodeChar c ++ ·) (ih hrest)

theorem map_some_filterMap {items : List (Option Char)} (h : items.all Option.isSome = true) :
    (items.filterMap id).map some = items := by
  induction items with
  | nil => rfl
  | cons item items ih =>
      rw [all_cons, Bool.and_eq_true, Option.isSome_iff_exists] at h
      obtain ⟨⟨c, rfl⟩, hitems⟩ := h
      exact congrArg (some c :: ·) (ih hitems)

/-- Bytes are read as a text if and only if they are its encoding. -/
theorem decodeChars?_eq_some_iff {bytes : Bytes} {cs : List Char} :
    decodeChars? bytes = some cs ↔ bytes = encodeChars cs := by
  constructor
  · intro h
    rw [decodeChars?] at h
    split at h
    · rename_i hall
      obtain rfl := Option.some.inj h
      exact eq_encodeChars_of_run (map_some_filterMap hall).symm
    · cases h
  · rintro rfl
    simp [decodeChars?, run_encodeChars]

/-- Bytes that encode a text. -/
def WellFormed (bytes : Bytes) : Prop := ∃ text, bytes = encode text

theorem decode?_eq_some_iff {bytes : Bytes} {text : String} :
    decode? bytes = some text ↔ bytes = encode text := by
  simp only [decode?, Option.map_eq_some_iff, decodeChars?_eq_some_iff, encode]
  constructor
  · rintro ⟨cs, rfl, rfl⟩
    rw [String.toList_ofList]
  · rintro rfl
    exact ⟨text.toList, rfl, String.ofList_toList⟩

theorem decode?_eq_none_iff {bytes : Bytes} : decode? bytes = none ↔ ¬ WellFormed bytes := by
  simp only [Option.eq_none_iff_forall_ne_some, ne_eq, decode?_eq_some_iff, WellFormed, not_exists]

theorem encode_join (texts : List String) :
    encode (String.join texts) = texts.flatMap encode := by
  rw [encode, String.toList_join, encodeChars, flatMap_assoc]
  rfl

/-- Characters of ASCII are encoded as their numbers. -/
theorem encodeChars_of_ascii {cs : List Char} (h : ∀ c ∈ cs, c.toNat < 0x80) :
    encodeChars cs = cs.map fun c => UInt8.ofNat c.toNat := by
  induction cs with
  | nil => rfl
  | cons c cs ih =>
      obtain ⟨hc, hcs⟩ := forall_mem_cons.mp h
      rw [encodeChars_cons, utf8EncodeChar_of_ascii (Nat.le_of_lt_succ hc), ih hcs, map_cons,
        singleton_append]

/-- A text whose encoding is in ASCII is in ASCII. -/
theorem ascii_of_encode {text : String} (h : ∀ b ∈ encode text, b < 0x80) :
    ∀ c ∈ text.toList, c.toNat < 0x80 := by
  intro c hc
  by_cases hascii : c.toNat ≤ 0x7F
  · exact Nat.lt_succ_of_le hascii
  · obtain ⟨b, more, hencoded, -⟩ := next_utf8EncodeChar c
    have hb : b ∈ String.utf8EncodeChar c := by
      rw [hencoded]
      exact mem_cons_self
    have hlow : b.toNat < 0x80 := UInt8.lt_iff_toNat_lt.mp (h b (mem_flatMap.mpr ⟨c, hc, hb⟩))
    have hhigh := high_of_mem (Nat.lt_of_not_le hascii) hb
    omega

theorem wellFormed_of_ascii {bytes : Bytes} (h : ∀ b ∈ bytes, b < 0x80) : WellFormed bytes := by
  refine ⟨String.ofList (bytes.map fun b => Char.ofNat b.toNat), ?_⟩
  rw [encode, String.toList_ofList, encodeChars_of_ascii, map_map]
  · rw [map_congr_left (g := id), map_id]
    intro b hb
    rw [Function.comp_apply, toNat_char, UInt8.ofNat_toNat]
    rfl
  · intro c hc
    obtain ⟨b, hb, rfl⟩ := mem_map.mp hc
    rw [toNat_char]
    exact UInt8.lt_iff_toNat_lt.mp (h b hb)

/-- An encoded text is read back where any bytes are read, too. -/
theorem decodeCharsLossy_encodeChars (cs : List Char) :
    decodeCharsLossy (encodeChars cs) = cs := by
  rw [decodeCharsLossy, run_encodeChars, map_map]
  exact map_id cs

end TrafficCapture.Text.Utf8
