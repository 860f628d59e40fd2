import Mathlib.Data.List.TakeDrop
import TrafficCapture.Json.Reader

/-! # Reading back what was written

A reader reads a value back if it finds it at the front of the text that was written for it, and
leaves what stands behind. Here are the values that hold no others. -/

namespace TrafficCapture.Json

open List

/-! ## Where values begin and end -/

/-- What may stand behind a value: nothing, or a mark that ends it. -/
def Ends (rest : List Char) : Prop :=
  ∀ c, rest.head? = some c → c = ',' ∨ c = ']' ∨ c = Char.ofNat 0x7D

theorem ends_nil : Ends [] := nofun

theorem ends_comma (rest : List Char) : Ends (',' :: rest) := by
  rintro c ⟨⟩
  exact .inl rfl

theorem ends_bracket (rest : List Char) : Ends (']' :: rest) := by
  rintro c ⟨⟩
  exact .inr (.inl rfl)

theorem ends_brace (rest : List Char) : Ends (Char.ofNat 0x7D :: rest) := by
  rintro c ⟨⟩
  exact .inr (.inr rfl)

/-- The digits of an integer behind its sign. -/
theorem toList_toString (n : Int) :
    (toString n).toList =
      if 0 ≤ n then Nat.toDigits 10 n.toNat else '-' :: Nat.toDigits 10 (-n).toNat := by
  rw [Int.toString_eq_repr, Int.repr_eq_if]
  split <;> simp [Nat.repr_eq_ofList_toDigits]

theorem exists_toDigits (n : ℕ) : ∃ c cs, Nat.toDigits 10 n = c :: cs ∧ c.isDigit = true := by
  obtain ⟨c, cs, hcons⟩ := exists_cons_of_ne_nil (Nat.toDigits_ne_nil (n := n) (b := 10))
  refine ⟨c, cs, hcons, ?_⟩
  exact Nat.isDigit_of_mem_toDigits (b := 10) (n := n) (by omega) (by omega) (hcons ▸ mem_cons_self ..)

/-- A character that a value may begin with; only `null` begins with its letter. -/
structure Opens (v : Json) (c : Char) : Prop where
  notBlank : isBlank c = false
  notBracket : c ≠ ']'
  null : c = 'n' → v = .null

theorem opens_of_isDigit {v : Json} {c : Char} (h : c.isDigit = true) : Opens v c := by
  refine ⟨?_, ?_, ?_⟩
  · rw [Bool.eq_false_iff]
    intro hblank
    simp only [isBlank, Bool.or_eq_true, beq_iff_eq] at hblank
    rcases hblank with ((rfl | rfl) | rfl) | rfl <;> exact absurd h (by decide)
  · rintro rfl
    exact absurd h (by decide)
  · rintro rfl
    exact absurd h (by decide)

theorem exists_opens_toString (v : Json) (n : Int) :
    ∃ c cs, (toString n).toList = c :: cs ∧ Opens v c := by
  rw [toList_toString]
  split
  · obtain ⟨c, cs, hcons, hdigit⟩ := exists_toDigits n.toNat
    exact ⟨c, cs, hcons, opens_of_isDigit hdigit⟩
  · exact ⟨'-', _, rfl, rfl, by decide, fun h => absurd h (by decide)⟩

/-- Whatever is written for a value begins with a character that tells that it does. -/
theorem exists_opens (v : Json) (rest : List Char) :
    ∃ c cs, v.write rest = c :: cs ∧ Opens v c := by
  cases v with
  | null => exact ⟨_, _, rfl, rfl, by decide, fun _ => rfl⟩
  | bool b => cases b <;> exact ⟨_, _, rfl, rfl, by decide, fun h => absurd h (by decide)⟩
  | int n =>
      obtain ⟨c, cs, hcons, hopens⟩ := exists_opens_toString (.int n) n
      exact ⟨c, cs ++ rest, by rw [write, hcons, cons_append], hopens⟩
  | decimal n e =>
      obtain ⟨c, cs, hcons, hopens⟩ := exists_opens_toString (.decimal n e) n
      have htext : (toString n ++ "e" ++ toString e).toList =
          (toString n).toList ++ 'e' :: (toString e).toList := by simp
      exact ⟨c, _, by rw [write, htext, hcons, cons_append, cons_append], hopens⟩
  | text s => exact ⟨_, _, by rw [write, writeText], rfl, by decide, fun h => absurd h (by decide)⟩
  | list items => exact ⟨_, _, by rw [write], rfl, by decide, fun h => absurd h (by decide)⟩
  | object members => exact ⟨_, _, by rw [write], rfl, by decide, fun h => absurd h (by decide)⟩

theorem skipBlanks_cons {c : Char} (h : isBlank c = false) (cs : List Char) :
    skipBlanks (c :: cs) = c :: cs := by
  simp [skipBlanks, h]

theorem skipBlanks_write (v : Json) (rest : List Char) :
    skipBlanks (v.write rest) = v.write rest := by
  obtain ⟨c, cs, hcons, hopens⟩ := exists_opens v rest
  rw [hcons, skipBlanks_cons hopens.notBlank]

/-! ## Readers that read back -/

/-- The reader finds a value at the front of the text of `v`, wherever so many levels of nesting
are allowed. -/
def Reads {α : Type} (levels : ℕ) (r : Reader α) (v : Json) (a : α) : Prop :=
  ∀ (limits : Limits) (rest : List Char), levels < limits.depth → Ends rest →
    (v.write rest).length ≤ limits.steps → r limits (v.write rest) = .ok (a, rest)

section

variable {α β : Type} {levels : ℕ} {r : Reader α} {v : Json} {a : α}

theorem Reads.map (h : Reads levels r v a) (f : α → β) : Reads levels (r.map f) v (f a) := by
  intro limits rest hdepth hends hsteps
  rw [Reader.map, h limits rest hdepth hends hsteps]
  rfl

/-- What a reader reads back is the whole text, where it stands alone. -/
theorem Reads.run (h : Reads levels r v a) (hlevels : levels < maxDepth) :
    r.run v.render = .ok a := by
  have hread := h ⟨maxDepth, (v.write []).length + 1⟩ [] hlevels ends_nil (Nat.le_succ _)
  simp only [Reader.run, render, String.toList_ofList, hread]
  rfl

theorem reads_none (levels : ℕ) (r : Reader α) : Reads levels (readOption r) .null none := by
  intro limits rest _ _ _
  rfl

theorem Reads.some (h : Reads levels r v a) (hv : v ≠ .null) :
    Reads levels (readOption r) v (some a) := by
  intro limits rest hdepth hends hsteps
  obtain ⟨c, cs, hcons, hopens⟩ := exists_opens v rest
  have hread := (h.map Option.some) limits rest hdepth hends hsteps
  rw [readOption, skipBlanks_write, hcons]
  rw [hcons] at hread
  split
  · rename_i hnull
    obtain ⟨rfl, -⟩ := cons.inj hnull
    exact absurd (hopens.null rfl) hv
  · exact hread

/-- An optional value is read back if its values are, none of which is written as absence. -/
theorem reads_option {f : α → Json} (o : Option α) (h : ∀ a, Reads levels r (f a) a)
    (hf : ∀ a, f a ≠ .null) : Reads levels (readOption r) (.option f o) o := by
  cases o with
  | none => exact reads_none levels r
  | some a => exact (h a).some (hf a)

end

theorem reads_bool (levels : ℕ) (b : Bool) : Reads levels readBool (.bool b) b := by
  intro limits rest _ _ _
  cases b <;> rfl

/-! ## Texts -/

theorem hexDigit?_hexDigit : ∀ n < 16, Text.hexDigit? (hexDigit n) = some n := by decide +kernel

theorem readHex4_hexDigit {n : ℕ} (h : n < 0x20) (rest : List Char) :
    readHex4 ('0' :: '0' :: hexDigit (n / 16) :: hexDigit (n % 16) :: rest) = .ok (n, rest) := by
  have hzero : Text.hexDigit? '0' = some 0 := by decide +kernel
  have hhigh := hexDigit?_hexDigit (n / 16) (by omega)
  have hlow := hexDigit?_hexDigit (n % 16) (by omega)
  simp only [readHex4, hzero, hhigh, hlow, Except.ok.injEq, Prod.mk.injEq, and_true]
  omega

/-- A character that is escaped is found behind the backslash. -/
theorem escape_cases (c : Char) :
    (escape c = [c] ∧ c ≠ '"' ∧ c ≠ '\\' ∧ 0x20 ≤ c.toNat) ∨
      ∃ code, escape c = '\\' :: code ∧
        ∀ rest, readEscape (code ++ rest) = .ok (c, rest) := by
  unfold escape
  by_cases hquote : c = '"'
  · subst hquote
    exact .inr ⟨_, rfl, fun _ => rfl⟩
  · by_cases hslash : c = '\\'
    · subst hslash
      exact .inr ⟨_, rfl, fun _ => rfl⟩
    · by_cases hplain : 0x20 ≤ c.toNat
      · simp [hquote, hslash, hplain]
      · refine .inr ?_
        simp only [beq_iff_eq, hquote, hslash, hplain, if_false]
        -- The short escapes are of single characters; any other is written by its number.
        split
        case h_6 =>
          refine ⟨_, rfl, fun rest => ?_⟩
          have hhex := readHex4_hexDigit (Nat.lt_of_not_le hplain) rest
          have hlow : c.toNat < 0xD800 := by omega
          simp only [cons_append, nil_append, readEscape, beq_self_eq_true, if_true, readUnicode,
            hhex]
          simp [hlow, bind, Except.bind, pure, Except.pure]
        all_goals
          rename_i hcode
          obtain rfl : c = Char.ofNat _ := (Char.ofNat_toNat c).symm.trans (congrArg _ hcode)
          exact ⟨_, rfl, fun _ => rfl⟩

theorem readTextOnto_backslash {c : Char} {cs rest : List Char}
    (h : readEscape cs = .ok (c, rest)) (done : List Char) :
    readTextOnto done ('\\' :: cs) = readTextOnto (c :: done) rest := by
  rw [readTextOnto]
  simp only [beq_iff_eq, Char.reduceEq, if_false, if_true]
  split
  · rename_i hfault
    cases h.symm.trans hfault
  · rename_i hescape
    cases h.symm.trans hescape
    rfl

theorem readTextOnto_escape (done : List Char) (c : Char) (cs : List Char) :
    readTextOnto done (escape c ++ cs) = readTextOnto (c :: done) cs := by
  rcases escape_cases c with ⟨hself, hquote, hslash, hplain⟩ | ⟨code, hcode, hread⟩
  · rw [hself, singleton_append, readTextOnto]
    simp only [beq_iff_eq, hquote, hslash, if_false, if_neg (Nat.not_lt_of_le hplain)]
  · rw [hcode, cons_append]
    exact readTextOnto_backslash (hread cs) done

theorem readTextOnto_flatMap (done cs rest : List Char) :
    readTextOnto done (cs.flatMap escape ++ '"' :: rest) =
      .ok (String.ofList (done.reverse ++ cs), rest) := by
  induction cs generalizing done with
  | nil =>
      rw [flatMap_nil, nil_append, readTextOnto]
      simp
  | cons c cs ih =>
      rw [flatMap_cons, append_assoc, readTextOnto_escape, ih]
      simp

/-- A text is read back behind its opening quote. -/
theorem readTextBody_write (s : String) (rest : List Char) :
    readTextBody (s.toList.flatMap escape ++ '"' :: rest) = .ok (s, rest) := by
  rw [readTextBody, readTextOnto_flatMap, reverse_nil, nil_append, String.ofList_toList]

theorem reads_text (levels : ℕ) (s : String) : Reads levels readText (.text s) s := by
  intro limits rest _ _ _
  rw [readText, skipBlanks_write, write, writeText]
  exact readTextBody_write s rest

/-- A name among the tags is read back as what it stands for. -/
theorem reads_tag {α : Type} (levels : ℕ) {tags : List (String × α)} {name : String} {a : α}
    (h : tags.lookup name = some a) : Reads levels (readTag tags) (.text name) a := by
  intro limits rest _ _ _
  rw [readTag, skipBlanks_write, write, writeText]
  simp only [readTextBody_write, bind, Except.bind, h]

/-! ## Numbers -/

theorem digitsValue_toDigits (n : ℕ) : digitsValue (Nat.toDigits 10 n) = n := by
  have hvalue := Nat.ofDigitChars_ten_toDigits (n := n)
  have hzero : '0'.toNat = 48 := rfl
  rw [Nat.ofDigitChars_eq_foldl, hzero] at hvalue
  rw [digitsValue]
  simpa only [Nat.mul_comm] using hvalue

/-- Only the numeral of zero begins with a zero. -/
theorem head?_toDigits {n : ℕ} (h : (Nat.toDigits 10 n).head? = some '0') : n = 0 := by
  induction n using Nat.strongRecOn with
  | ind n ih =>
      rw [Nat.toDigits_eq_if (by decide)] at h
      split at h
      · rename_i hlt
        have hdigit : ∀ d < 10, Nat.digitChar d = '0' → d = 0 := by decide
        exact hdigit n hlt (Option.some.inj h)
      · obtain ⟨c, cs, hcons, -⟩ := exists_toDigits (n / 10)
        rw [hcons, cons_append, head?_cons, ← head?_cons (l := cs), ← hcons] at h
        have hquotient := ih (n / 10) (by omega) h
        omega

theorem not_isDigit_of_ends {rest : List Char} (h : Ends rest) :
    rest.takeWhile Char.isDigit = [] ∧ rest.dropWhile Char.isDigit = rest := by
  cases rest with
  | nil => exact ⟨rfl, rfl⟩
  | cons c rest =>
      have hdigit : c.isDigit = false := by
        rcases h c rfl with rfl | rfl | rfl <;> rfl
      simp [hdigit]

theorem readDigits1_toDigits (n : ℕ) {rest : List Char} (h : Ends rest) :
    readDigits1 (Nat.toDigits 10 n ++ rest) = .ok (Nat.toDigits 10 n, rest) := by
  have hdigits : ∀ c ∈ Nat.toDigits 10 n, c.isDigit = true :=
    fun c hc => Nat.isDigit_of_mem_toDigits (by decide) (by decide) hc
  obtain ⟨htake, hdrop⟩ := not_isDigit_of_ends h
  rw [readDigits1, span_eq_takeWhile_dropWhile, takeWhile_append_of_pos hdigits,
    dropWhile_append_of_pos hdigits, htake, hdrop, append_nil]
  split
  · rename_i hnil
    exact absurd (congrArg Prod.fst hnil) Nat.toDigits_ne_nil
  · rename_i hnil
    exact absurd (congrArg Prod.fst hnil) Nat.toDigits_ne_nil
  · rename_i hpair
    rw [← Prod.mk.inj hpair |>.1, ← Prod.mk.inj hpair |>.2]

theorem readFraction_of_ends {rest : List Char} (h : Ends rest) :
    readFraction rest = .ok ([], rest) := by
  unfold readFraction
  split
  · rcases h '.' rfl with hc | hc | hc <;> exact absurd hc (by decide)
  · rfl

theorem readExponent_of_ends {rest : List Char} (h : Ends rest) :
    readExponent rest = .ok (none, rest) := by
  cases rest with
  | nil => rfl
  | cons c rest =>
      rcases h c rfl with rfl | rfl | rfl <;> rfl

theorem readNumberBody_toDigits (negative : Bool) (n : ℕ) {rest : List Char} (h : Ends rest) :
    readNumberBody negative (Nat.toDigits 10 n ++ rest) =
      (numberOf negative (Nat.toDigits 10 n) [] none).map (·, rest) := by
  have hlead : ((Nat.toDigits 10 n).head? == some '0' && (Nat.toDigits 10 n).length != 1) =
      false := by
    rw [Bool.eq_false_iff]
    intro hzero
    simp only [Bool.and_eq_true, beq_iff_eq, bne_iff_ne] at hzero
    obtain rfl := head?_toDigits hzero.1
    exact hzero.2 (by rw [Nat.toDigits_zero]; rfl)
  simp only [readNumberBody, readDigits1_toDigits n h, readFraction_of_ends h,
    readExponent_of_ends h, bind, Except.bind, hlead]
  cases numberOf negative (Nat.toDigits 10 n) [] none <;> rfl

theorem numberOf_natural {n : ℕ} (h : n < 0x10000000000000000) :
    numberOf false (Nat.toDigits 10 n) [] none = .ok (.whole n) := by
  simp [numberOf, digitsValue_toDigits, h]

theorem numberOf_negative {n : ℕ} (hpos : 0 < n) (h : n ≤ 0x8000000000000000) :
    numberOf true (Nat.toDigits 10 n) [] none = .ok (.whole (-n)) := by
  simp [numberOf, digitsValue_toDigits, hpos, h]

/-- An integer that is in range, and of at most 64 bits, is read back. -/
theorem reads_integer (levels : ℕ) {least greatest n : Int} (hleast : least ≤ n)
    (hgreatest : n ≤ greatest) (hlow : -0x8000000000000000 ≤ n) (hhigh : n < 0x10000000000000000) :
    Reads levels (readInteger least greatest) (.int n) n := by
  intro limits rest _ hends _
  rw [readInteger, skipBlanks_write, write, toList_toString]
  by_cases hsign : 0 ≤ n
  · obtain ⟨c, cs, hcons, hdigit⟩ := exists_toDigits n.toNat
    have hread := readNumberBody_toDigits false n.toNat hends
    rw [numberOf_natural (by omega), hcons, cons_append, Int.toNat_of_nonneg hsign] at hread
    have hminus : c ≠ '-' := by
      rintro rfl
      cases hdigit
    rw [if_pos hsign, hcons, cons_append]
    simp only [hdigit, if_true, hread, Except.map, bind, Except.bind, hleast, hgreatest, and_self]
  · have hread := readNumberBody_toDigits true (-n).toNat hends
    rw [numberOf_negative (by omega) (by omega), Int.toNat_of_nonneg (by omega), Int.neg_neg]
      at hread
    rw [if_neg hsign, cons_append]
    simp only [hread, Except.map, bind, Except.bind, hleast, hgreatest, and_self, if_true]

/-- A natural number in range is read back as the word that it is the value of. -/
theorem reads_word {α : Type} (levels : ℕ) {n greatest : ℕ} {ofNat : ℕ → α} {a : α}
    (hn : n ≤ greatest) (hgreatest : greatest < 0x10000000000000000) (ha : ofNat n = a) :
    Reads levels (Reader.map (fun m : Int => ofNat m.toNat) (readInteger 0 greatest)) (nat n) a := by
  have hread : Reads levels (readInteger 0 greatest) (nat n) (n : Int) :=
    reads_integer levels (Int.natCast_nonneg n) (Int.ofNat_le.mpr hn) (by omega) (by omega)
  have hword := hread.map fun m => ofNat m.toNat
  rwa [Int.toNat_natCast, ha] at hword

theorem reads_word8 (levels : ℕ) (n : UInt8) : Reads levels readWord8 (nat n.toNat) n :=
  reads_word levels (Nat.le_of_lt_succ n.toNat_lt) (by decide) UInt8.ofNat_toNat

theorem reads_word16 (levels : ℕ) (n : UInt16) : Reads levels readWord16 (nat n.toNat) n :=
  reads_word levels (Nat.le_of_lt_succ n.toNat_lt) (by decide) UInt16.ofNat_toNat

theorem reads_word32 (levels : ℕ) (n : UInt32) : Reads levels readWord32 (nat n.toNat) n :=
  reads_word levels (Nat.le_of_lt_succ n.toNat_lt) (by decide) UInt32.ofNat_toNat

theorem reads_word64 (levels : ℕ) (n : UInt64) : Reads levels readWord64 (nat n.toNat) n :=
  reads_word levels (Nat.le_of_lt_succ n.toNat_lt) (by decide) UInt64.ofNat_toNat

theorem reads_signed64 (levels : ℕ) (n : Int64) : Reads levels readSigned64 (.int n.toInt) n := by
  have hlow := n.le_toInt
  have hhigh := n.toInt_lt
  have hread : Reads levels (readInteger (-0x8000000000000000) 0x7FFFFFFFFFFFFFFF)
      (.int n.toInt) n.toInt :=
    reads_integer levels hlow (by omega) hlow (by omega)
  have hword := hread.map Int64.ofInt
  rwa [Int64.ofInt_toInt] at hword

end TrafficCapture.Json
