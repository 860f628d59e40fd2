import Mathlib.Data.Nat.Notation
import TrafficCapture.Text.Base64

/-! # Base64

A text spells bytes if its characters, taken four by four, have the same bits as the bytes, taken
three by three. Exactly one text spells given bytes: the one that they are encoded as, which is the
only one that is read as them. -/

namespace TrafficCapture.Text.Base64

open List

/-! ## The alphabet -/

/-- The characters of the alphabet in the order of their values. -/
def alphabet : List Char :=
  "ABCDEFGHIJKLMNOPQRSTUVWXYZabcdefghijklmnopqrstuvwxyz0123456789+/".toList

/-- The character stands for the value, which has six bits. -/
def StandsFor (c : Char) (n : ℕ) : Prop := alphabet[n]? = some c

theorem alphabet_eq : alphabet = (range 64).map digit := String.toList_ofList

theorem standsFor_iff {c : Char} {n : ℕ} : StandsFor c n ↔ n < 64 ∧ c = digit n := by
  rw [StandsFor, alphabet_eq, List.getElem?_map, Option.map_eq_some_iff]
  simp only [List.getElem?_eq_some_iff, length_range, getElem_range, exists_prop]
  constructor
  · rintro ⟨_, ⟨hn, rfl⟩, rfl⟩
    exact ⟨hn, rfl⟩
  · rintro ⟨hn, rfl⟩
    exact ⟨n, ⟨hn, rfl⟩, rfl⟩

theorem StandsFor.lt {c : Char} {n : ℕ} (h : StandsFor c n) : n < 64 := (standsFor_iff.mp h).1

theorem standsFor_digit {n : ℕ} (h : n < 64) : StandsFor (digit n) n := standsFor_iff.mpr ⟨h, rfl⟩

theorem StandsFor.eq_digit {c : Char} {n : ℕ} (h : StandsFor c n) : c = digit n :=
  (standsFor_iff.mp h).2

theorem StandsFor.digit_eq {c : Char} {m n : ℕ} (h : StandsFor c m) (hn : n = m) :
    digit n = c := by
  rw [hn, h.eq_digit]

theorem eq_digit_of_value? {c : Char} {n : ℕ} (h : value? c = some n) :
    n < 64 ∧ c = digit n := by
  unfold value? at h
  grind [digit, Char.ofNat_toNat]

theorem value?_digit : ∀ n < 64, value? (digit n) = some n := by decide

/-- A character is read as the value that it stands for. -/
theorem value?_eq_some_iff {c : Char} {n : ℕ} : value? c = some n ↔ StandsFor c n := by
  constructor
  · intro h
    obtain ⟨hn, hc⟩ := eq_digit_of_value? h
    rw [hc]
    exact standsFor_digit hn
  · intro h
    rw [h.eq_digit]
    exact value?_digit n h.lt

/-! ## Spelling -/

/-- The characters spell the bytes: four of them have the 24 bits of three bytes. One byte or two at
the end are filled up with zero bits to two characters or three, and these with equals signs to
four. -/
inductive Spells : List Char → Bytes → Prop
  | nil : Spells [] []
  | one {a b : Char} {i j : ℕ} {x : UInt8} (ha : StandsFor a i) (hb : StandsFor b j)
      (bits : i * 64 + j = x.toNat * 16) : Spells [a, b, '=', '='] [x]
  | two {a b c : Char} {i j k : ℕ} {x y : UInt8} (ha : StandsFor a i) (hb : StandsFor b j)
      (hc : StandsFor c k) (bits : (i * 64 + j) * 64 + k = (x.toNat * 256 + y.toNat) * 4) :
      Spells [a, b, c, '='] [x, y]
  | three {a b c d : Char} {i j k l : ℕ} {x y z : UInt8} {text : List Char} {bytes : Bytes}
      (ha : StandsFor a i) (hb : StandsFor b j) (hc : StandsFor c k) (hd : StandsFor d l)
      (bits : ((i * 64 + j) * 64 + k) * 64 + l = (x.toNat * 256 + y.toNat) * 256 + z.toNat)
      (more : Spells text bytes) : Spells (a :: b :: c :: d :: text) (x :: y :: z :: bytes)

theorem encode_cons (x : UInt8) (bytes : Bytes) :
    encode (x :: bytes) = (encodeGroup x bytes).1 ++ encode (encodeGroup x bytes).2 := by
  simp only [encode, Scanner.run_cons, flatten_cons, groups]

theorem encode_nil : encode [] = [] := by
  simp [encode]

theorem encode_one (x : UInt8) :
    encode [x] = [digit (x.toNat * 16 / 64), digit (x.toNat * 16 % 64), '=', '='] := by
  rw [encode_cons]
  simp only [encodeGroup, encode_nil, append_nil]

theorem encode_two (x y : UInt8) :
    encode [x, y] =
      let n := x.toNat * 1024 + y.toNat * 4
      [digit (n / 4096), digit (n / 64 % 64), digit (n % 64), '='] := by
  rw [encode_cons]
  simp only [encodeGroup, encode_nil, append_nil]

theorem encode_three (x y z : UInt8) (bytes : Bytes) :
    encode (x :: y :: z :: bytes) =
      let n := x.toNat * 65536 + y.toNat * 256 + z.toNat
      digit (n / 262144) :: digit (n / 4096 % 64) :: digit (n / 64 % 64) :: digit (n % 64) ::
        encode bytes := by
  rw [encode_cons]
  simp only [encodeGroup, cons_append, nil_append]

theorem spells_encode (bytes : Bytes) : Spells (encode bytes) bytes := by
  match bytes with
  | [] =>
      rw [encode_nil]
      exact .nil
  | [x] =>
      have hx := x.toNat_lt
      rw [encode_one]
      exact .one (standsFor_digit (by omega)) (standsFor_digit (by omega)) (by omega)
  | [x, y] =>
      have hx := x.toNat_lt
      have hy := y.toNat_lt
      rw [encode_two]
      exact .two (standsFor_digit (by omega)) (standsFor_digit (by omega))
        (standsFor_digit (by omega)) (by omega)
  | x :: y :: z :: bytes =>
      have hx := x.toNat_lt
      have hy := y.toNat_lt
      have hz := z.toNat_lt
      rw [encode_three]
      exact .three (standsFor_digit (by omega)) (standsFor_digit (by omega))
        (standsFor_digit (by omega)) (standsFor_digit (by omega)) (by omega) (spells_encode bytes)
termination_by bytes.length

theorem Spells.eq_encode {text : List Char} {bytes : Bytes} (h : Spells text bytes) :
    text = encode bytes := by
  induction h with
  | nil => exact encode_nil.symm
  | one ha hb bits =>
      have hi := ha.lt
      have hj := hb.lt
      rw [encode_one, ha.digit_eq (by omega), hb.digit_eq (by omega)]
  | two ha hb hc bits =>
      have hi := ha.lt
      have hj := hb.lt
      have hk := hc.lt
      rw [encode_two]
      simp only
      rw [ha.digit_eq (by omega), hb.digit_eq (by omega), hc.digit_eq (by omega)]
  | three ha hb hc hd bits more ih =>
      have hi := ha.lt
      have hj := hb.lt
      have hk := hc.lt
      have hl := hd.lt
      rw [encode_three]
      simp only
      rw [ha.digit_eq (by omega), hb.digit_eq (by omega), hc.digit_eq (by omega),
        hd.digit_eq (by omega), ih]

/-- Bytes are spelled by what they are encoded as, and by nothing else. -/
theorem spells_iff {text : List Char} {bytes : Bytes} :
    Spells text bytes ↔ text = encode bytes := by
  constructor
  · exact Spells.eq_encode
  · rintro rfl
    exact spells_encode bytes

/-! ## Reading -/

theorem ofNat_eq {n : ℕ} {x : UInt8} (h : n % 256 = x.toNat) : UInt8.ofNat n = x := by
  rw [← UInt8.toNat_inj, UInt8.toNat_ofNat', h]

theorem StandsFor.ne_pad {c : Char} {n : ℕ} (h : StandsFor c n) : c ≠ '=' := by
  rintro rfl
  cases value?_eq_some_iff.mpr h

theorem decode?_of_spells {text : List Char} {bytes : Bytes} (h : Spells text bytes) :
    decode? text = some bytes := by
  induction h with
  | nil => rfl
  | @one a b i j x ha hb bits =>
      have hx := x.toNat_lt
      rw [decode?, value?_eq_some_iff.mpr ha, value?_eq_some_iff.mpr hb]
      simp only [Option.bind_eq_bind, Option.bind_some]
      rw [if_pos (by omega), ofNat_eq (x := x) (by omega)]
  | @two a b c i j k x y ha hb hc bits =>
      have hx := x.toNat_lt
      have hy := y.toNat_lt
      rw [decode?.eq_3 _ _ _ hc.ne_pad, value?_eq_some_iff.mpr ha, value?_eq_some_iff.mpr hb,
        value?_eq_some_iff.mpr hc]
      simp only [Option.bind_eq_bind, Option.bind_some]
      rw [if_pos (by omega), ofNat_eq (x := x) (by omega), ofNat_eq (x := y) (by omega)]
  | @three a b c d i j k l x y z text bytes ha hb hc hd bits more ih =>
      have hx := x.toNat_lt
      have hy := y.toNat_lt
      have hz := z.toNat_lt
      rw [decode?.eq_4 _ _ _ _ _ (fun h => absurd h hc.ne_pad) (fun h => absurd h hd.ne_pad),
        value?_eq_some_iff.mpr ha, value?_eq_some_iff.mpr hb, value?_eq_some_iff.mpr hc,
        value?_eq_some_iff.mpr hd, ih]
      simp only [Option.bind_eq_bind, Option.bind_some]
      rw [ofNat_eq (x := x) (by omega), ofNat_eq (x := y) (by omega),
        ofNat_eq (x := z) (by omega)]

theorem spells_of_decode? {text : List Char} {bytes : Bytes} (h : decode? text = some bytes) :
    Spells text bytes := by
  induction text using decode?.induct generalizing bytes with
  | case1 =>
      cases h
      exact .nil
  | case2 a b =>
      rw [decode?] at h
      simp only [Option.bind_eq_bind, Option.bind_eq_some_iff, value?_eq_some_iff,
        Option.ite_none_right_eq_some, Option.some.injEq] at h
      obtain ⟨i, ha, j, hb, hzero, rfl⟩ := h
      have hi := ha.lt
      have hj := hb.lt
      refine .one ha hb ?_
      rw [UInt8.toNat_ofNat']
      omega
  | case3 a b c hpad =>
      rw [decode?.eq_3 _ _ _ hpad] at h
      simp only [Option.bind_eq_bind, Option.bind_eq_some_iff, value?_eq_some_iff,
        Option.ite_none_right_eq_some, Option.some.injEq] at h
      obtain ⟨i, ha, j, hb, k, hc, hzero, rfl⟩ := h
      have hi := ha.lt
      have hj := hb.lt
      have hk := hc.lt
      refine .two ha hb hc ?_
      rw [UInt8.toNat_ofNat', UInt8.toNat_ofNat']
      omega
  | case4 a b c d rest hpads hpad ih =>
      rw [decode?.eq_4 _ _ _ _ _ hpads hpad] at h
      simp only [Option.bind_eq_bind, Option.bind_eq_some_iff, value?_eq_some_iff,
        Option.some.injEq] at h
      obtain ⟨i, ha, j, hb, k, hc, l, hd, more, hmore, rfl⟩ := h
      have hi := ha.lt
      have hj := hb.lt
      have hk := hc.lt
      have hl := hd.lt
      refine .three ha hb hc hd ?_ (ih hmore)
      rw [UInt8.toNat_ofNat', UInt8.toNat_ofNat', UInt8.toNat_ofNat']
      omega
  | case5 text hnil hone htwo hthree =>
      rw [decode?.eq_5 _ hnil hone htwo hthree] at h
      cases h

/-- A text is read as the bytes that it spells. -/
theorem decode?_eq_some_iff {text : List Char} {bytes : Bytes} :
    decode? text = some bytes ↔ Spells text bytes :=
  ⟨spells_of_decode?, decode?_of_spells⟩

/-- A text spells at most one list of bytes. -/
theorem Spells.unique {text : List Char} {bytes bytes' : Bytes} (h : Spells text bytes)
    (h' : Spells text bytes') : bytes = bytes' :=
  Option.some.inj ((decode?_eq_some_iff.mpr h).symm.trans (decode?_eq_some_iff.mpr h'))

end TrafficCapture.Text.Base64
