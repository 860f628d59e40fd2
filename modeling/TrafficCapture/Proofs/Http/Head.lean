import Mathlib.Data.List.DropRight
import Mathlib.Data.List.TakeDrop
import TrafficCapture.Http.Head
import TrafficCapture.Proofs.Text.Utf8

/-! # The grammar of heads

The texts of heads, as relations that no reader occurs in: lines, fields with blanks around their
values, and the first lines of requests and responses. A head is read from the front of bytes if
and only if one of its texts stands there. -/

namespace TrafficCapture.Http.Head

open List Text

section

variable {ε α β : Type} {x : Except ε α}

theorem bind_eq_ok_iff {f : α → Except ε β} {b : β} :
    x >>= f = .ok b ↔ ∃ a, x = .ok a ∧ f a = .ok b := by
  cases x with
  | error fault => simp [bind, Except.bind]
  | ok a => simp [bind, Except.bind]

theorem map_eq_ok_iff {f : α → β} {b : β} : x.map f = .ok b ↔ ∃ a, x = .ok a ∧ f a = b := by
  cases x with
  | error fault => simp [Except.map]
  | ok a => simp [Except.map]

end

/-! ## Bytes of words -/

theorem visible_of_isAlphanum {c : Char} (h : c.isAlphanum = true) :
    0x21 ≤ c.toNat ∧ c.toNat < 0x7F := by
  change ((decide (65 ≤ c.val ∧ c.val ≤ 90) || (97 ≤ c.val && c.val ≤ 122)) ||
    (48 ≤ c.val && c.val ≤ 57)) = true at h
  simp only [Bool.or_eq_true, Bool.and_eq_true, decide_eq_true_eq, UInt32.le_iff_toNat_le,
    UInt32.reduceToNat, Char.toNat_val] at h
  omega

/-- A byte of a token is visible ASCII. -/
theorem visible_of_isTokenByte {b : UInt8} (h : isTokenByte b = true) :
    0x21 ≤ b.toNat ∧ b.toNat < 0x7F := by
  have hmarks : ∀ c ∈ "!#$%&'*+-.^_|~".toList, 0x21 ≤ c.toNat ∧ c.toNat < 0x7F := by simp
  simp only [isTokenByte, Bool.or_eq_true, beq_iff_eq, contains_iff_mem] at h
  rw [← Utf8.toNat_char]
  rcases h with (h | h) | rfl
  · exact visible_of_isAlphanum h
  · exact hmarks _ h
  · decide

theorem isTokenByte_lt {b : UInt8} (h : isTokenByte b = true) : b < 0x80 :=
  UInt8.lt_iff_toNat_lt.mpr ((visible_of_isTokenByte h).2.trans (by decide))

theorem isToken_iff {token : Bytes} :
    isToken token = true ↔ token ≠ [] ∧ ∀ b ∈ token, isTokenByte b = true := by
  simp [isToken]

theorem isValueByte_of_isTokenByte {b : UInt8} (h : isTokenByte b = true) :
    isValueByte b = true := by
  obtain ⟨hlow, hhigh⟩ := visible_of_isTokenByte h
  simp only [isValueByte, Bool.or_eq_true, Bool.and_eq_true, decide_eq_true_eq, bne_iff_ne,
    UInt8.le_iff_toNat_le, ne_eq, ← UInt8.toNat_inj]
  exact .inr ⟨(by decide : 0x20 ≤ 0x21).trans hlow, hhigh.ne⟩

theorem isValueByte_of_isTargetByte {b : UInt8} (h : isTargetByte b = true) :
    isValueByte b = true := by
  simp only [isTargetByte, isValueByte, Bool.and_eq_true, Bool.or_eq_true, decide_eq_true_eq] at h ⊢
  exact .inr ⟨UInt8.le_trans (by decide) h.1, h.2⟩

variable {bytes rest : Bytes}

/-! ## Lines -/

/-- What ends a line. -/
inductive LineEnd : Bytes → Prop
  | crlf : LineEnd [13, 10]
  | lf : LineEnd [10]

theorem lineEnd_eq_ok_iff : lineEnd bytes = .ok rest ↔ ∃ eol, LineEnd eol ∧ bytes = eol ++ rest := by
  constructor
  · intro h
    unfold lineEnd at h
    split at h <;> cases h
    · exact ⟨_, .crlf, rfl⟩
    · exact ⟨_, .lf, rfl⟩
  · rintro ⟨eol, h, rfl⟩
    cases h <;> rfl

theorem lineEnd_of_ne {b : UInt8} (hcr : b ≠ 13) (hlf : b ≠ 10) (rest : Bytes) :
    lineEnd (b :: rest) = .error .malformed := by
  unfold lineEnd
  split <;> simp_all

/-- Lines with nothing in them. -/
inductive EmptyLines : Bytes → Prop
  | nil : EmptyLines []
  | cons {eol lines : Bytes} (h : LineEnd eol) (more : EmptyLines lines) :
      EmptyLines (eol ++ lines)

theorem skipEmptyLines_of_ne {b : UInt8} (hcr : b ≠ 13) (hlf : b ≠ 10) (rest : Bytes) :
    skipEmptyLines (b :: rest) = .ok (b :: rest) := by
  unfold skipEmptyLines
  split <;> simp_all

/-- All empty lines are dropped, so that something else follows them. -/
theorem skipEmptyLines_eq_ok_iff :
    skipEmptyLines bytes = .ok rest ↔
      (∃ b more, rest = b :: more ∧ b ≠ 13 ∧ b ≠ 10) ∧
        ∃ lines, EmptyLines lines ∧ bytes = lines ++ rest := by
  constructor
  · intro h
    induction bytes using skipEmptyLines.induct with
    | case1 bytes ih =>
        rw [skipEmptyLines] at h
        obtain ⟨hrest, lines, hlines, rfl⟩ := ih h
        exact ⟨hrest, _, .cons .crlf hlines, rfl⟩
    | case2 bytes ih =>
        rw [skipEmptyLines] at h
        obtain ⟨hrest, lines, hlines, rfl⟩ := ih h
        exact ⟨hrest, _, .cons .lf hlines, rfl⟩
    | case3 => cases h
    | case4 => cases h
    | case5 more hcrlf hcr =>
        rw [skipEmptyLines.eq_5 _ hcrlf hcr] at h
        cases h
    | case6 bytes hcrlf hlf hnil hcr hstray =>
        rw [skipEmptyLines.eq_6 _ hcrlf hlf hnil hcr hstray] at h
        obtain rfl := Except.ok.inj h
        cases bytes with
        | nil => exact (hnil rfl).elim
        | cons b more =>
            refine ⟨⟨b, more, rfl, ?_, ?_⟩, [], .nil, rfl⟩
            · rintro rfl
              exact hstray more rfl
            · rintro rfl
              exact hlf more rfl
  · rintro ⟨⟨b, more, rfl, hcr, hlf⟩, lines, hlines, rfl⟩
    induction hlines with
    | nil => exact skipEmptyLines_of_ne hcr hlf more
    | cons h _ ih =>
        cases h with
        | crlf => exact ih
        | lf => exact ih

/-! ## Words and values -/

theorem word_eq_ok_iff {allowed : UInt8 → Bool} {mark : UInt8} {front : Bytes}
    (hmark : allowed mark = false) :
    word allowed mark bytes = .ok (front, rest) ↔
      front ≠ [] ∧ (∀ b ∈ front, allowed b = true) ∧ bytes = front ++ mark :: rest := by
  constructor
  · intro h
    have hall : ∀ b ∈ bytes.takeWhile allowed, allowed b = true := fun b hb => mem_takeWhile_imp hb
    have hcut := takeWhile_append_dropWhile (p := allowed) (l := bytes)
    rw [word, span_eq_takeWhile_dropWhile] at h
    split at h
    · cases h
    · cases h
    · rename_i found b more hne hspan
      obtain ⟨hfront, hback⟩ := Prod.mk.inj hspan
      split at h
      · rename_i hb
        cases h
        rw [hfront] at hall
        rw [hfront, hback, beq_iff_eq.mp hb] at hcut
        exact ⟨hne, hall, hcut.symm⟩
      · cases h
  · rintro ⟨hne, hall, rfl⟩
    obtain ⟨first, front, rfl⟩ := exists_cons_of_ne_nil hne
    have hfront : (first :: front ++ mark :: rest).takeWhile allowed = first :: front := by
      rw [takeWhile_append_of_pos hall, takeWhile_cons_of_neg (by simp [hmark]), append_nil]
    have hback : (first :: front ++ mark :: rest).dropWhile allowed = mark :: rest := by
      rw [dropWhile_append_of_pos hall, dropWhile_cons_of_neg (by simp [hmark])]
    rw [word, span_eq_takeWhile_dropWhile, hfront, hback]
    simp

theorem word_isTokenByte_eq_ok_iff {mark : UInt8} {token : Bytes}
    (hmark : isTokenByte mark = false) : word isTokenByte mark bytes = .ok (token, rest) ↔
      isToken token = true ∧ bytes = token ++ mark :: rest := by
  rw [word_eq_ok_iff hmark, isToken_iff, and_assoc]

/-- Bytes without a blank at either end. -/
structure Bare (bytes : Bytes) : Prop where
  front : ∀ b ∈ bytes.head?, isPadding b = false
  back : ∀ b ∈ bytes.getLast?, isPadding b = false

instance (bytes : Bytes) : Decidable (Bare bytes) :=
  decidable_of_iff ((bytes.head?.all fun b => !isPadding b) = true ∧
      (bytes.getLast?.all fun b => !isPadding b) = true)
    ⟨fun h => ⟨by simpa [Option.all_eq_true] using h.1, by simpa [Option.all_eq_true] using h.2⟩,
      fun h => ⟨by simpa [Option.all_eq_true] using h.front,
        by simpa [Option.all_eq_true] using h.back⟩⟩

theorem isValueByte_of_isPadding {b : UInt8} (h : isPadding b = true) : isValueByte b = true := by
  simp only [isPadding, Bool.or_eq_true, beq_iff_eq] at h
  rcases h with rfl | rfl <;> decide

theorem LineEnd.stops {eol : Bytes} (h : LineEnd eol) (rest : Bytes) :
    ∃ b more, eol ++ rest = b :: more ∧ isValueByte b = false ∧ isPadding b = false := by
  cases h with
  | crlf => exact ⟨13, 10 :: rest, rfl, by decide, by decide⟩
  | lf => exact ⟨10, rest, rfl, by decide, by decide⟩

/-- A line goes as far as there are bytes that may stand in it. -/
theorem LineEnd.cut {eol : Bytes} (h : LineEnd eol) {line : Bytes}
    (hline : ∀ b ∈ line, isValueByte b = true) (rest : Bytes) :
    (line ++ (eol ++ rest)).takeWhile isValueByte = line ∧
      (line ++ (eol ++ rest)).dropWhile isValueByte = eol ++ rest := by
  obtain ⟨b, more, hstop, hvalue, -⟩ := h.stops rest
  rw [takeWhile_append_of_pos hline, dropWhile_append_of_pos hline, hstop,
    takeWhile_cons_of_neg (by simp [hvalue]), dropWhile_cons_of_neg (by simp [hvalue]), append_nil]
  exact ⟨rfl, rfl⟩

/-- The blanks behind bytes without one at their end are dropped, and they alone. -/
theorem rdropWhile_append_of_back {found behind : Bytes}
    (hfound : ∀ b ∈ found.getLast?, isPadding b = false)
    (hbehind : ∀ b ∈ behind, isPadding b = true) :
    (found ++ behind).rdropWhile isPadding = found := by
  have hreverse : ∀ b ∈ behind.reverse, isPadding b = true := by simpa using hbehind
  rw [rdropWhile, reverse_append, dropWhile_append_of_pos hreverse]
  cases hlast : found.reverse with
  | nil => simpa using hlast
  | cons b front =>
      have hb : isPadding b = false := by
        apply hfound
        rw [← head?_reverse, hlast, head?_cons, Option.mem_some]
      rw [dropWhile_cons_of_neg (by simp [hb]), ← hlast, reverse_reverse]

theorem bare_rdropWhile_dropWhile (bytes : Bytes) :
    Bare (((bytes.dropWhile isPadding).takeWhile isValueByte).rdropWhile isPadding) := by
  constructor
  · intro b hb
    obtain ⟨trimmed, htrimmed⟩ := head?_eq_some_iff.mp hb
    have hbegins := ( rdropWhile_prefix isPadding _).trans
      ( takeWhile_prefix (l := bytes.dropWhile isPadding) isValueByte)
    obtain ⟨behind, hbehind⟩ := htrimmed ▸ hbegins
    have hfront := head?_dropWhile_not isPadding bytes
    rw [← hbehind] at hfront
    exact hfront
  · intro b hb
    obtain ⟨hne, rfl⟩ := mem_getLast?_eq_getLast hb
    simpa using rdropWhile_last_not isPadding _ hne

/-- The blanks before a value are dropped. Where there is no value, those behind it are, too. -/
theorem LineEnd.exists_dropWhile_eq {eol : Bytes} (h : LineEnd eol) {before found behind : Bytes}
    (hbefore : ∀ b ∈ before, isPadding b = true) (hfound : ∀ b ∈ found.head?, isPadding b = false)
    (hbehind : ∀ b ∈ behind, isPadding b = true) (rest : Bytes) :
    ∃ behind', (∀ b ∈ behind', isPadding b = true) ∧
      (before ++ (found ++ (behind ++ (eol ++ rest)))).dropWhile isPadding =
        found ++ (behind' ++ (eol ++ rest)) := by
  rw [dropWhile_append_of_pos hbefore]
  cases found with
  | nil =>
      obtain ⟨b, more, hstop, -, hpadding⟩ := h.stops rest
      refine ⟨[], by simp, ?_⟩
      rw [nil_append, dropWhile_append_of_pos hbehind, hstop,
        dropWhile_cons_of_neg (by simp [hpadding])]
      rfl
  | cons first found =>
      have hfirst := hfound first rfl
      exact ⟨behind, hbehind, dropWhile_cons_of_neg (by simp [hfirst])⟩

theorem value_eq (bytes : Bytes) :
    value bytes =
      (lineEnd ((bytes.dropWhile isPadding).dropWhile isValueByte)).map fun rest =>
        (((bytes.dropWhile isPadding).takeWhile isValueByte).rdropWhile isPadding, rest) := by
  rw [value, span_eq_takeWhile_dropWhile]
  rfl

/-- The blanks around a value are dropped, and the value has none at its ends. -/
theorem value_eq_ok_iff {found : Bytes} :
    value bytes = .ok (found, rest) ↔
      (∀ b ∈ found, isValueByte b = true) ∧ Bare found ∧
        ∃ before behind eol, (∀ b ∈ before, isPadding b = true) ∧
          (∀ b ∈ behind, isPadding b = true) ∧ LineEnd eol ∧
            bytes = before ++ (found ++ (behind ++ (eol ++ rest))) := by
  simp only [value_eq, map_eq_ok_iff, lineEnd_eq_ok_iff, Prod.mk.injEq]
  constructor
  · rintro ⟨_, ⟨eol, heol, hrest⟩, rfl, rfl⟩
    have hbare := bare_rdropWhile_dropWhile bytes
    have hblanks := takeWhile_append_dropWhile (p := isPadding) (l := bytes)
    generalize bytes.dropWhile isPadding = inner at hrest hbare hblanks ⊢
    have hline := takeWhile_append_dropWhile (p := isValueByte) (l := inner)
    have hall : ∀ b ∈ inner.takeWhile isValueByte, isValueByte b = true :=
      fun b hb => mem_takeWhile_imp hb
    have hvalue := rdropWhile_append_rtakeWhile (p := isPadding) (l := inner.takeWhile isValueByte)
    refine ⟨fun b hb => hall b (( rdropWhile_prefix isPadding _).subset hb), hbare,
      bytes.takeWhile isPadding, (inner.takeWhile isValueByte).rtakeWhile isPadding, eol,
      fun b hb => mem_takeWhile_imp hb, fun b hb => mem_rtakeWhile_imp hb, heol, ?_⟩
    rw [← append_assoc (rdropWhile _ _), hvalue, ← hrest, hline, hblanks]
  · rintro ⟨hall, hbare, before, behind, eol, hbefore, hbehind, heol, rfl⟩
    obtain ⟨behind', hbehind', hinner⟩ :=
      heol.exists_dropWhile_eq hbefore hbare.front hbehind rest
    have hline : ∀ b ∈ found ++ behind', isValueByte b = true := by
      simp only [forall_mem_append]
      exact ⟨hall, fun b hb => isValueByte_of_isPadding (hbehind' b hb)⟩
    obtain ⟨htake, hdrop⟩ := heol.cut hline rest
    rw [hinner, ← append_assoc, htake, hdrop]
    exact ⟨rest, ⟨eol, heol, rfl⟩, rdropWhile_append_of_back hbare.back hbehind', rfl⟩

/-! ## Fields -/

/-- A header field as it is sent, without what stands around its name and its value. -/
structure WireField where
  name : Bytes
  value : Bytes
  token : isToken name = true
  printed : ∀ b ∈ value, isValueByte b = true
  bare : Bare value

/-- The field as it is read. -/
def WireField.read (f : WireField) : String × String :=
  (Utf8.decodeLossy f.name, Utf8.decodeLossy f.value)

/-- The line of a field: blanks may stand around the value, and none before the colon. -/
def FieldLine (f : WireField) (line : Bytes) : Prop :=
  ∃ before behind eol, (∀ b ∈ before, isPadding b = true) ∧ (∀ b ∈ behind, isPadding b = true) ∧
    LineEnd eol ∧ line = f.name ++ 58 :: (before ++ (f.value ++ (behind ++ eol)))

/-- The lines of fields, and the empty line behind them. -/
inductive FieldBlock : List WireField → Bytes → Prop
  | nil {eol : Bytes} (h : LineEnd eol) : FieldBlock [] eol
  | cons {f : WireField} {fs : List WireField} {line block : Bytes} (h : FieldLine f line)
      (more : FieldBlock fs block) : FieldBlock (f :: fs) (line ++ block)

theorem field_eq_ok_iff {shown : String × String} :
    field bytes = .ok (shown, rest) ↔
      ∃ f line, FieldLine f line ∧ bytes = line ++ rest ∧ shown = f.read := by
  simp only [field, bind_eq_ok_iff, Prod.exists,
    word_isTokenByte_eq_ok_iff (by decide : isTokenByte 58 = false),
    value_eq_ok_iff, pure, Except.pure, Except.ok.injEq, Prod.mk.injEq]
  constructor
  · rintro ⟨name, _, ⟨htoken, rfl⟩, found, _, ⟨hprinted, hbare, before, behind, eol, hbefore,
      hbehind, heol, rfl⟩, rfl, rfl⟩
    refine ⟨⟨name, found, htoken, hprinted, hbare⟩, _,
      ⟨before, behind, eol, hbefore, hbehind, heol, rfl⟩, ?_, rfl⟩
    simp only [append_assoc, cons_append]
  · rintro ⟨f, _, ⟨before, behind, eol, hbefore, hbehind, heol, rfl⟩, rfl, rfl⟩
    refine ⟨f.name, before ++ (f.value ++ (behind ++ (eol ++ rest))), ⟨f.token, ?_⟩,
      f.value, rest, ⟨f.printed, f.bare, before, behind, eol, hbefore, hbehind, heol, rfl⟩, rfl, rfl⟩
    simp only [append_assoc, cons_append]

/-- Neither a field nor the first line of a request begins with a line end. -/
theorem exists_append_eq_cons {token : Bytes} (h : isToken token = true) (rest : Bytes) :
    ∃ b more, token ++ rest = b :: more ∧ b ≠ 13 ∧ b ≠ 10 := by
  obtain ⟨hne, hbytes⟩ := isToken_iff.mp h
  obtain ⟨b, more, rfl⟩ := exists_cons_of_ne_nil hne
  have hlow := (visible_of_isTokenByte (hbytes b mem_cons_self)).1
  refine ⟨b, more ++ rest, rfl, ?_, ?_⟩ <;> rintro rfl <;> exact absurd hlow (by decide)

theorem FieldLine.lineEnd_eq {f : WireField} {line : Bytes} (h : FieldLine f line) (rest : Bytes) :
    lineEnd (line ++ rest) = .error .malformed := by
  obtain ⟨before, behind, eol, -, -, -, rfl⟩ := h
  rw [append_assoc]
  obtain ⟨b, more, hline, hcr, hlf⟩ := exists_append_eq_cons f.token
    (58 :: (before ++ (f.value ++ (behind ++ eol))) ++ rest)
  rw [hline]
  exact lineEnd_of_ne hcr hlf more

theorem FieldLine.field_eq {f : WireField} {line : Bytes} (h : FieldLine f line) (rest : Bytes) :
    field (line ++ rest) = .ok (f.read, rest) :=
  field_eq_ok_iff.mpr ⟨f, line, h, rfl, rfl⟩

/-- What one line of a block holds: nothing, or a field with a block behind it. -/
theorem fields_eq_ok_cases {room : ℕ} {headers : Headers}
    (h : fields room bytes = .ok (headers, rest)) :
    (lineEnd bytes = .ok rest ∧ headers = []) ∨
      ∃ n first more left, room = n + 1 ∧ field bytes = .ok (first, left) ∧
        fields n left = .ok (more, rest) ∧ headers = first :: more := by
  unfold fields at h
  split at h
  · rename_i hend
    cases h
    exact .inl ⟨hend, rfl⟩
  · cases h
  · split at h
    · cases h
    · cases h
    · rename_i first left n hfield
      obtain ⟨⟨more, last⟩, hmore, hall⟩ := map_eq_ok_iff.mp h
      cases hall
      exact .inr ⟨n, first, more, left, rfl, hfield, hmore, rfl⟩

theorem fields_of_lineEnd (room : ℕ) (h : lineEnd bytes = .ok rest) :
    fields room bytes = .ok ([], rest) := by
  unfold fields
  rw [h]

theorem FieldLine.fields_eq {f : WireField} {line : Bytes} (h : FieldLine f line) (n : ℕ)
    (rest : Bytes) :
    fields (n + 1) (line ++ rest) =
      (fields n rest).map fun (more, rest) => (f.read :: more, rest) := by
  rw [fields.eq_def]
  simp only [h.lineEnd_eq, h.field_eq]

theorem fields_eq_ok_iff {room : ℕ} {headers : Headers} :
    fields room bytes = .ok (headers, rest) ↔
      ∃ fs block, FieldBlock fs block ∧ fs.length ≤ room ∧ bytes = block ++ rest ∧
        headers = fs.map WireField.read := by
  constructor
  · intro h
    induction room generalizing bytes headers with
    | zero =>
        obtain ⟨hend, rfl⟩ | ⟨n, -, -, -, hroom, -⟩ := fields_eq_ok_cases h
        · obtain ⟨eol, heol, rfl⟩ := lineEnd_eq_ok_iff.mp hend
          exact ⟨[], eol, .nil heol, le_rfl, rfl, rfl⟩
        · cases hroom
    | succ room ih =>
        obtain ⟨hend, rfl⟩ | ⟨n, first, more, left, hroom, hfield, hmore, rfl⟩ :=
          fields_eq_ok_cases h
        · obtain ⟨eol, heol, rfl⟩ := lineEnd_eq_ok_iff.mp hend
          exact ⟨[], eol, .nil heol, Nat.zero_le _, rfl, rfl⟩
        · cases hroom
          obtain ⟨f, line, hline, rfl, rfl⟩ := field_eq_ok_iff.mp hfield
          obtain ⟨fs, block, hblock, hlength, rfl, rfl⟩ := ih hmore
          exact ⟨f :: fs, line ++ block, .cons hline hblock, Nat.succ_le_succ hlength,
            (append_assoc ..).symm, rfl⟩
  · rintro ⟨fs, block, hblock, hlength, rfl, rfl⟩
    induction hblock generalizing room with
    | nil heol => exact fields_of_lineEnd room (lineEnd_eq_ok_iff.mpr ⟨_, heol, rfl⟩)
    | cons hline _ ih =>
        cases room with
        | zero => cases hlength
        | succ room =>
            rw [append_assoc, hline.fields_eq, ih (Nat.le_of_succ_le_succ hlength)]
            rfl

/-! ## First lines -/

theorem version_eq_ok_iff {minor : ℕ} :
    version bytes = .ok (minor, rest) ↔
      minor ≤ 1 ∧ bytes = Bytes.ofAscii (versionText minor) ++ rest := by
  constructor
  · intro h
    unfold version at h
    split at h
    · rename_i found text hfind
      cases h
      have hmem := mem_of_find?_eq_some hfind
      have hbegins := find?_some hfind
      simp only [versions, mem_map, mem_cons, not_mem_nil, or_false, Prod.mk.injEq] at hmem
      obtain ⟨minor, hminor, rfl, rfl⟩ := hmem
      refine ⟨by omega, ?_⟩
      obtain ⟨rest, rfl⟩ := isPrefixOf_iff_prefix.mp hbegins
      rw [drop_left]
    · split at h <;> cases h
  · rintro ⟨hminor, rfl⟩
    obtain rfl | rfl := Nat.le_one_iff_eq_zero_or_eq_one.mp hminor
    · rfl
    · rfl

/-- A request head as it is sent. -/
structure WireRequest where
  method : Bytes
  target : String
  minor : ℕ
  fields : List WireField
  token : isToken method = true
  aimed : Utf8.encode target ≠ []
  visible : ∀ b ∈ Utf8.encode target, isTargetByte b = true
  known : minor ≤ 1

/-- The head as it is read. -/
def WireRequest.read (w : WireRequest) : RequestHead :=
  ⟨Utf8.decodeLossy w.method, w.target, w.minor, w.fields.map WireField.read⟩

/-- The text of a request head. Empty lines may stand before it. -/
def RequestText (w : WireRequest) (text : Bytes) : Prop :=
  ∃ lines eol block, EmptyLines lines ∧ LineEnd eol ∧ FieldBlock w.fields block ∧
    text = lines ++ (w.method ++ 32 :: (Utf8.encode w.target ++ 32 ::
      (Bytes.ofAscii (versionText w.minor) ++ (eol ++ block))))

theorem request_eq_ok_iff {room : ℕ} {head : RequestHead} :
    request room bytes = .ok (head, rest) ↔
      ∃ w text, RequestText w text ∧ w.fields.length ≤ room ∧ bytes = text ++ rest ∧
        head = w.read := by
  constructor
  · intro h
    simp only [request, bind_eq_ok_iff, Prod.exists,
      word_isTokenByte_eq_ok_iff (by decide : isTokenByte 32 = false),
      word_eq_ok_iff (by decide : isTargetByte 32 = false)] at h
    obtain ⟨_, hskip, method, _, ⟨htoken, rfl⟩, target, _, ⟨haimed, hvisible, rfl⟩, h⟩ := h
    split at h
    · cases h
    · rename_i shown hshown
      obtain rfl := Utf8.decode?_eq_some_iff.mp hshown
      simp only [bind_eq_ok_iff, Prod.exists, version_eq_ok_iff, lineEnd_eq_ok_iff,
        fields_eq_ok_iff] at h
      obtain ⟨minor, _, ⟨hknown, rfl⟩, _, ⟨eol, heol, rfl⟩, _, _, ⟨fs, block, hblock, hroom, rfl,
        rfl⟩, h⟩ := h
      cases h
      obtain ⟨-, lines, hlines, rfl⟩ := skipEmptyLines_eq_ok_iff.mp hskip
      refine ⟨⟨method, shown, minor, fs, htoken, haimed, hvisible, hknown⟩, _,
        ⟨lines, eol, block, hlines, heol, hblock, rfl⟩, hroom, ?_, rfl⟩
      simp only [append_assoc, cons_append]
  · rintro ⟨w, _, ⟨lines, eol, block, hlines, heol, hblock, rfl⟩, hroom, rfl, rfl⟩
    simp only [append_assoc, cons_append, request, bind_eq_ok_iff, Prod.exists,
      word_isTokenByte_eq_ok_iff (by decide : isTokenByte 32 = false),
      word_eq_ok_iff (by decide : isTargetByte 32 = false)]
    refine ⟨_, skipEmptyLines_eq_ok_iff.mpr ⟨exists_append_eq_cons w.token _, lines, hlines,
      rfl⟩, w.method, _, ⟨w.token, rfl⟩, Utf8.encode w.target, _,
      ⟨w.aimed, w.visible, rfl⟩, ?_⟩
    rw [Utf8.decode?_eq_some_iff.mpr rfl]
    simp only [bind_eq_ok_iff, Prod.exists, version_eq_ok_iff, lineEnd_eq_ok_iff, fields_eq_ok_iff]
    exact ⟨w.minor, _, ⟨w.known, rfl⟩, _, ⟨eol, heol, rfl⟩, _, rest,
      ⟨w.fields, block, hblock, hroom, rfl, rfl⟩, rfl⟩

/-! ## Responses -/

/-- A status code is written with three digits. -/
def codeText (status : UInt16) : Bytes :=
  [status.toNat / 100, status.toNat / 10 % 10, status.toNat % 10].map fun d => UInt8.ofNat (48 + d)

theorem toNat_of_mem_codeText {status : UInt16} (h : status.toNat < 1000) :
    ∀ d ∈ codeText status, 48 ≤ d.toNat ∧ d.toNat ≤ 57 := by
  intro d hd
  simp only [codeText, map_cons, map_nil, mem_cons, not_mem_nil, or_false] at hd
  rcases hd with rfl | rfl | rfl <;> rw [Utf8.toNat_ofNat_of_lt (by omega)] <;> omega

/-- The number that three digits are read as is written with them. -/
theorem codeText_ofNat {a b c : UInt8} (ha : 48 ≤ a.toNat ∧ a.toNat ≤ 57)
    (hb : 48 ≤ b.toNat ∧ b.toNat ≤ 57) (hc : 48 ≤ c.toNat ∧ c.toNat ≤ 57) :
    let n := (a.toNat - 48) * 100 + (b.toNat - 48) * 10 + (c.toNat - 48)
    (UInt16.ofNat n).toNat = n ∧ codeText (UInt16.ofNat n) = [a, b, c] := by
  intro n
  have hn : (UInt16.ofNat n).toNat = n := by
    rw [UInt16.toNat_ofNat']
    omega
  refine ⟨hn, ?_⟩
  have hdigit {d : ℕ} {x : UInt8} (h : 48 + d = x.toNat) : UInt8.ofNat (48 + d) = x := by
    rw [h, UInt8.ofNat_toNat]
  rw [codeText, hn, map_cons, map_cons, map_cons, map_nil, hdigit (x := a) (by omega),
    hdigit (x := b) (by omega), hdigit (x := c) (by omega)]

/-- A byte that a status code is written with. -/
def isDigitByte (d : UInt8) : Bool := 48 ≤ d && d ≤ 57

theorem isDigitByte_iff {d : UInt8} : isDigitByte d = true ↔ 48 ≤ d.toNat ∧ d.toNat ≤ 57 := by
  simp [isDigitByte, UInt8.le_iff_toNat_le]

theorem code_codeText {status : UInt16} (h : status.toNat < 1000) (rest : Bytes) :
    code (codeText status ++ rest) = .ok (status, rest) := by
  have hthree : (codeText status ++ rest).take 3 = codeText status := rfl
  have hdigits : (codeText status).takeWhile isDigitByte = codeText status := by
    rw [takeWhile_eq_self_iff]
    exact fun d hd => isDigitByte_iff.mpr (toNat_of_mem_codeText h d hd)
  have hnumber : UInt16.ofNat (status.toNat / 100 * 100 + status.toNat / 10 % 10 * 10 +
      status.toNat % 10) = status := by
    have hdiv : status.toNat / 10 / 10 = status.toNat / 100 := Nat.div_div_eq_div_mul ..
    rw [← UInt16.toNat_inj, UInt16.toNat_ofNat']
    omega
  have hdigit {d : ℕ} (hd : d < 10) : (UInt8.ofNat (48 + d)).toNat - 48 = d := by
    rw [Utf8.toNat_ofNat_of_lt (by omega), Nat.add_sub_cancel_left]
  unfold isDigitByte at hdigits
  rw [code, span_eq_takeWhile_dropWhile, hthree, hdigits]
  simp only [codeText, map_cons, map_nil]
  rw [hdigit (d := status.toNat / 100) (by omega), hdigit (d := status.toNat / 10 % 10) (by omega),
    hdigit (d := status.toNat % 10) (by omega), hnumber]
  rfl

theorem code_eq_ok_iff {status : UInt16} :
    code bytes = .ok (status, rest) ↔ status.toNat < 1000 ∧ bytes = codeText status ++ rest := by
  constructor
  · intro h
    rw [code, span_eq_takeWhile_dropWhile] at h
    split at h
    · rename_i a b c _ hspan
      have hdigits : (bytes.take 3).takeWhile isDigitByte = [a, b, c] := (Prod.mk.inj hspan).1
      have hthree : bytes.take 3 = [a, b, c] := by
        have hbegins := takeWhile_prefix (l := bytes.take 3) isDigitByte
        rw [hdigits] at hbegins
        exact (hbegins.eq_of_length_le (length_take_le 3 bytes)).symm
      have hrange : ∀ d ∈ [a, b, c], 48 ≤ d.toNat ∧ d.toNat ≤ 57 := by
        intro d hd
        rw [← hdigits] at hd
        exact isDigitByte_iff.mp (mem_takeWhile_imp hd)
      have ha := hrange a (by simp)
      have hb := hrange b (by simp)
      have hc := hrange c (by simp)
      obtain ⟨hnumber, htext⟩ := codeText_ofNat ha hb hc
      cases h
      refine ⟨by omega, ?_⟩
      rw [htext, ← hthree, take_append_drop]
    · cases h
    · cases h
  · rintro ⟨hshort, rfl⟩
    exact code_codeText hshort rest

/-- What may stand behind a status code: nothing, or a reason behind a space. One with bytes beyond
ASCII is not shown. -/
inductive ReasonText : String → Bytes → Prop
  | absent {eol : Bytes} (h : LineEnd eol) : ReasonText "" eol
  | shown {reason eol : Bytes} (h : LineEnd eol) (hprinted : ∀ b ∈ reason, isValueByte b = true)
      (hascii : ∀ b ∈ reason, b < 0x80) :
      ReasonText (Utf8.decodeLossy reason) (32 :: (reason ++ eol))
  | hidden {reason eol : Bytes} {b : UInt8} (h : LineEnd eol)
      (hprinted : ∀ b ∈ reason, isValueByte b = true) (hb : b ∈ reason) (hhigh : 0x80 ≤ b) :
      ReasonText "" (32 :: (reason ++ eol))

theorem reason_eq_ok_iff {shown : String} :
    reason bytes = .ok (shown, rest) ↔ ∃ text, ReasonText shown text ∧ bytes = text ++ rest := by
  constructor
  · intro h
    unfold reason at h
    split at h
    · rename_i bytes
      have hline := takeWhile_append_dropWhile (p := isValueByte) (l := bytes)
      have hall : ∀ b ∈ bytes.takeWhile isValueByte, isValueByte b = true :=
        fun b hb => mem_takeWhile_imp hb
      rw [span_eq_takeWhile_dropWhile] at h
      simp only [map_eq_ok_iff, lineEnd_eq_ok_iff, Prod.mk.injEq] at h
      obtain ⟨_, ⟨eol, heol, hrest⟩, hshown, rfl⟩ := h
      rw [hrest] at hline
      refine ⟨32 :: (bytes.takeWhile isValueByte ++ eol), ?_, ?_⟩
      · split at hshown
        · rename_i hascii
          rw [← hshown]
          exact .shown heol hall (by simpa using hascii)
        · rename_i hascii
          obtain ⟨b, hb, hhigh⟩ : ∃ b ∈ bytes.takeWhile isValueByte, 0x80 ≤ b := by
            simpa using hascii
          rw [← hshown]
          exact .hidden heol hall hb hhigh
      · rw [cons_append, append_assoc, hline]
    · simp only [map_eq_ok_iff, lineEnd_eq_ok_iff, Prod.mk.injEq] at h
      obtain ⟨_, ⟨eol, heol, hrest⟩, rfl, rfl⟩ := h
      exact ⟨eol, .absent heol, hrest⟩
  · rintro ⟨text, htext, rfl⟩
    cases htext with
    | absent heol => cases heol <;> rfl
    | @shown found eol heol hprinted hascii =>
        have hall : found.all (· < 0x80) = true := by simpa using hascii
        rw [cons_append, append_assoc, reason, span_eq_takeWhile_dropWhile]
        simp only [heol.cut hprinted, lineEnd_eq_ok_iff.mpr ⟨eol, heol, rfl⟩, hall, Except.map,
          if_true]
    | @hidden found eol b heol hprinted hb hhigh =>
        have hall : found.all (· < 0x80) = false := by simpa using ⟨b, hb, hhigh⟩
        rw [cons_append, append_assoc, reason, span_eq_takeWhile_dropWhile]
        simp only [heol.cut hprinted, lineEnd_eq_ok_iff.mpr ⟨eol, heol, rfl⟩, hall, Except.map,
          Bool.false_eq_true, if_false]

/-- A response head as it is sent. -/
structure WireResponse where
  minor : ℕ
  status : UInt16
  reason : String
  fields : List WireField
  known : minor ≤ 1
  short : status.toNat < 1000

/-- The head as it is read. -/
def WireResponse.read (w : WireResponse) : ResponseHead :=
  ⟨w.minor, w.status, w.reason, w.fields.map WireField.read⟩

/-- The text of a response head. Empty lines may stand before it. -/
def ResponseText (w : WireResponse) (text : Bytes) : Prop :=
  ∃ lines reason block, EmptyLines lines ∧ ReasonText w.reason reason ∧
    FieldBlock w.fields block ∧
      text = lines ++ (Bytes.ofAscii (versionText w.minor) ++ 32 :: (codeText w.status ++
        (reason ++ block)))

theorem space_eq_ok_iff : space bytes = .ok rest ↔ bytes = 32 :: rest := by
  constructor
  · intro h
    unfold space at h
    split at h <;> cases h
    rfl
  · rintro rfl
    rfl

theorem response_eq_ok_iff {room : ℕ} {head : ResponseHead} :
    response room bytes = .ok (head, rest) ↔
      ∃ w text, ResponseText w text ∧ w.fields.length ≤ room ∧ bytes = text ++ rest ∧
        head = w.read := by
  simp only [response, bind_eq_ok_iff, Prod.exists, skipEmptyLines_eq_ok_iff, version_eq_ok_iff,
    space_eq_ok_iff, code_eq_ok_iff, reason_eq_ok_iff, fields_eq_ok_iff]
  constructor
  · rintro ⟨_, ⟨-, lines, hlines, rfl⟩, minor, _, ⟨hknown, rfl⟩, _, rfl, status, _, ⟨hshort, rfl⟩,
      shown, _, ⟨reason, hreason, rfl⟩, _, _, ⟨fs, block, hblock, hroom, rfl, rfl⟩, h⟩
    cases h
    refine ⟨⟨minor, status, shown, fs, hknown, hshort⟩, _, ⟨lines, reason, block, hlines, hreason,
      hblock, rfl⟩, hroom, ?_, rfl⟩
    simp only [append_assoc, cons_append]
  · rintro ⟨w, _, ⟨lines, reason, block, hlines, hreason, hblock, rfl⟩, hroom, rfl, rfl⟩
    simp only [append_assoc, cons_append]
    have hfront (rest : Bytes) : ∃ b more, Bytes.ofAscii (versionText w.minor) ++ rest = b :: more ∧
        b ≠ 13 ∧ b ≠ 10 := by
      obtain hminor | hminor := Nat.le_one_iff_eq_zero_or_eq_one.mp w.known
      · rw [hminor]
        exact ⟨72, _, rfl, by decide, by decide⟩
      · rw [hminor]
        exact ⟨72, _, rfl, by decide, by decide⟩
    refine ⟨_, ⟨hfront _, lines, hlines, rfl⟩, w.minor, _, ⟨w.known, rfl⟩,
      _, rfl, w.status, _, ⟨w.short, rfl⟩, w.reason, _, ⟨reason, hreason, rfl⟩, _, rest,
      ⟨w.fields, block, hblock, hroom, rfl, rfl⟩, rfl⟩

end TrafficCapture.Http.Head
