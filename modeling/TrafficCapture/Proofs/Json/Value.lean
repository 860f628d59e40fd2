import TrafficCapture.Proofs.Json.Record

/-! # Reading back any value

A value is read back from its text without being told its type, unless it lies too deep, has numbers
of more than 64 bits or fractions in it, or gives one name to two members. -/

namespace TrafficCapture.Json

open List

/-- A value with at most so many levels of nesting that its text alone tells. -/
inductive Readable : ℕ → Json → Prop
  | null {levels : ℕ} : Readable levels .null
  | bool {levels : ℕ} (b : Bool) : Readable levels (.bool b)
  | int {levels : ℕ} {n : Int} (hlow : -0x8000000000000000 ≤ n) (hhigh : n < 0x10000000000000000) :
      Readable levels (.int n)
  | text {levels : ℕ} (s : String) : Readable levels (.text s)
  | list {levels : ℕ} {items : List Json} (h : ∀ v ∈ items, Readable levels v) :
      Readable (levels + 1) (.list items)
  | object {levels : ℕ} {members : List (String × Json)} (hnames : (members.map Prod.fst).Nodup)
      (h : ∀ m ∈ members, Readable levels m.2) : Readable (levels + 1) (.object members)

/-! ## Readers of any value -/

section

variable {levels : ℕ} {limits : Limits} {rest behind : List Char} {n : Int}

/-- Behind a bracket a list is read as it is where one is asked for. -/
theorem readAny_bracket (h : levels + 1 < limits.depth) :
    readAny limits ('[' :: rest) =
      Reader.map Json.list (readList readAny) limits ('[' :: rest) := by
  obtain ⟨depth, steps⟩ := limits
  obtain ⟨depth, rfl⟩ := Nat.exists_eq_add_of_lt h
  have hskip : skipBlanks ('[' :: rest) = '[' :: rest := skipBlanks_cons rfl rest
  have hinner : readAny ⟨levels + 1 + depth, steps⟩ = readAnyAt steps (levels + 1 + depth) := rfl
  simp only [readAny, readAnyAt, Reader.map, readList, hskip, enter_of_lt h, bind, Except.bind,
    Nat.add_sub_cancel, hinner]
  rw [if_neg (by omega)]
  cases readItems (readAnyAt steps (levels + 1 + depth)) steps [] rest <;> rfl

/-- Behind a brace an object is read as it is where one is asked for. -/
theorem readAny_brace (h : levels + 1 < limits.depth) :
    readAny limits ('\x7b' :: rest) =
      Reader.map Json.object (readMap readAny) limits ('\x7b' :: rest) := by
  obtain ⟨depth, steps⟩ := limits
  obtain ⟨depth, rfl⟩ := Nat.exists_eq_add_of_lt h
  have hskip : skipBlanks ('\x7b' :: rest) = '\x7b' :: rest := skipBlanks_cons rfl rest
  have hbrace : ('\x7b' == Char.ofNat 0x7B) = true := rfl
  have hinner : readAny ⟨levels + 1 + depth, steps⟩ = readAnyAt steps (levels + 1 + depth) := rfl
  simp only [Reader.map, readMap, hskip, hbrace, enter_of_lt h, bind, Except.bind,
    Nat.add_sub_cancel, hinner, if_true]
  rw [readAny, readAnyAt, hskip]
  split
  case h_8 heq =>
    obtain ⟨rfl, rfl⟩ := cons.inj heq
    rw [if_pos hbrace, if_neg (by omega)]
    cases readMembers (readAnyAt steps (levels + 1 + depth)) steps true [] rest <;> rfl
  all_goals
    rename_i heq
    cases heq

theorem readAny_minus (h : 0 < limits.depth)
    (hread : readNumberBody true rest = .ok (.whole n, behind)) :
    readAny limits ('-' :: rest) = .ok (.int n, behind) := by
  obtain ⟨depth, steps⟩ := limits
  obtain ⟨depth, rfl⟩ := Nat.exists_eq_succ_of_ne_zero (Nat.ne_of_gt h)
  have hskip : skipBlanks ('-' :: rest) = '-' :: rest := skipBlanks_cons rfl rest
  simp only [readAny, readAnyAt, hskip, hread]
  rfl

theorem readAny_digit {c : Char} (hc : c.isDigit = true) (h : 0 < limits.depth)
    (hread : readNumberBody false (c :: rest) = .ok (.whole n, behind)) :
    readAny limits (c :: rest) = .ok (.int n, behind) := by
  obtain ⟨depth, steps⟩ := limits
  obtain ⟨depth, rfl⟩ := Nat.exists_eq_succ_of_ne_zero (Nat.ne_of_gt h)
  have hskip : skipBlanks (c :: rest) = c :: rest :=
    skipBlanks_cons (opens_of_isDigit (v := .null) hc).notBlank rest
  have hbrace : (c == Char.ofNat 0x7B) = false := by
    rw [beq_eq_false_iff_ne]
    rintro rfl
    cases hc
  rw [readAny, readAnyAt, hskip]
  split
  case h_8 heq =>
    obtain ⟨rfl, rfl⟩ := cons.inj heq
    simp only [hbrace, hc, if_true, hread]
    rfl
  all_goals
    rename_i heq
    cases heq <;> cases hc

end

/-! ## Readable values -/

section

variable {levels : ℕ}

theorem reads_anyInt {n : Int} (hlow : -0x8000000000000000 ≤ n) (hhigh : n < 0x10000000000000000) :
    Reads levels readAny (.int n) (.int n) := by
  intro limits rest hdepth hends _
  have hpos := Nat.zero_lt_of_lt hdepth
  rw [write, toList_toString]
  by_cases hsign : 0 ≤ n
  · obtain ⟨c, cs, hcons, hdigit⟩ := exists_toDigits n.toNat
    have hread := readNumberBody_toDigits false n.toNat hends
    rw [numberOf_natural (by omega), hcons, cons_append, Int.toNat_of_nonneg hsign] at hread
    rw [if_pos hsign, hcons, cons_append]
    exact readAny_digit hdigit hpos hread
  · have hread := readNumberBody_toDigits true (-n).toNat hends
    rw [numberOf_negative (by omega) (by omega), Int.toNat_of_nonneg (by omega), Int.neg_neg]
      at hread
    rw [if_neg hsign, cons_append]
    exact readAny_minus hpos hread

/-- A value that its text alone tells is read back. -/
theorem Readable.reads {v : Json} (h : Readable levels v) : Reads levels readAny v v := by
  induction h with
  | null =>
      rintro ⟨depth, steps⟩ rest hdepth _ _
      obtain ⟨depth, rfl⟩ := Nat.exists_eq_succ_of_ne_zero (Nat.ne_of_gt (Nat.zero_lt_of_lt hdepth))
      rfl
  | bool b =>
      rintro ⟨depth, steps⟩ rest hdepth _ _
      obtain ⟨depth, rfl⟩ := Nat.exists_eq_succ_of_ne_zero (Nat.ne_of_gt (Nat.zero_lt_of_lt hdepth))
      cases b <;> rfl
  | int hlow hhigh => exact reads_anyInt hlow hhigh
  | text s =>
      rintro ⟨depth, steps⟩ rest hdepth _ _
      obtain ⟨depth, rfl⟩ := Nat.exists_eq_succ_of_ne_zero (Nat.ne_of_gt (Nat.zero_lt_of_lt hdepth))
      have hskip := skipBlanks_write (.text s) rest
      rw [write, writeText] at hskip ⊢
      simp only [readAny, readAnyAt, hskip, readTextBody_write]
      rfl
  | @list levels items h ih =>
      have hlist : Reads (levels + 1) (Reader.map Json.list (readList readAny))
          (.list (items.map id)) (.list items) :=
        (reads_list ih).map Json.list
      rw [map_id] at hlist
      intro limits rest hdepth hends hroom
      have hread := hlist limits rest hdepth hends hroom
      rw [write] at hread ⊢
      rw [readAny_bracket hdepth, hread]
  | @object levels members hnames h ih =>
      have hsame : (members.map fun m => (m.1, id m.2)) = members := map_id members
      have hmap : Reads (levels + 1) (Reader.map Json.object (readMap readAny))
          (.object (members.map fun m => (m.1, id m.2))) (.object members) :=
        (reads_map ih hnames).map Json.object
      rw [hsame] at hmap
      intro limits rest hdepth hends hroom
      have hread := hmap limits rest hdepth hends hroom
      rw [write] at hread ⊢
      exact (readAny_brace hdepth).trans hread

end

end TrafficCapture.Json
