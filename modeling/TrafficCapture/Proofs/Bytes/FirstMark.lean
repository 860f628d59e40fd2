import Mathlib.Data.List.Infix
import TrafficCapture.Bytes

/-! # First occurrences of a mark

A cut behind a mark is characterized without positions: the front ends in the mark, and the mark
occurs nowhere earlier in it. The front is therefore determined by the bytes. -/

namespace TrafficCapture.Bytes

open List

/-- The mark ends the bytes, and that is where it first occurs in them. -/
structure EndsAtFirst (mark bytes : Bytes) : Prop where
  ends : mark <:+ bytes
  first : ¬ mark <:+: bytes.dropLast

instance (mark bytes : Bytes) : Decidable (EndsAtFirst mark bytes) :=
  decidable_of_iff (mark <:+ bytes ∧ ¬ mark <:+: bytes.dropLast)
    ⟨fun h => ⟨h.1, h.2⟩, fun h => ⟨h.ends, h.first⟩⟩

theorem EndsAtFirst.mark_length_le {mark bytes : Bytes} (h : EndsAtFirst mark bytes) :
    mark.length ≤ bytes.length :=
  h.ends.length_le

theorem endsAtFirst_self {mark : Bytes} (hm : mark ≠ []) : EndsAtFirst mark mark := by
  refine ⟨suffix_rfl, fun h => ?_⟩
  have hle := h.length_le
  have hpos := length_pos_iff.mpr hm
  rw [length_dropLast] at hle
  omega

/-- A mark that begins the bytes occurs first at their beginning. -/
theorem EndsAtFirst.eq_of_prefix {mark before after : Bytes}
    (h : EndsAtFirst mark (before ++ mark)) (hp : mark <+: before ++ mark ++ after) :
    before = [] := by
  by_contra hne
  apply h.first
  have hpos := length_pos_iff.mpr hne
  have hshort : mark.length ≤ (before ++ mark).dropLast.length := by
    simp only [length_dropLast, length_append]
    omega
  have hfront : (before ++ mark).dropLast <+: before ++ mark ++ after :=
    ( dropLast_prefix _).trans (prefix_append _ _)
  exact (prefix_of_prefix_length_le hp hfront hshort).isInfix

theorem EndsAtFirst.of_cons {mark bytes : Bytes} {b : UInt8} (h : EndsAtFirst mark (b :: bytes))
    (hne : mark ≠ b :: bytes) (hb : bytes ≠ []) : EndsAtFirst mark bytes := by
  refine ⟨(suffix_cons_iff.mp h.ends).resolve_left hne, fun hi => h.first ?_⟩
  rw [dropLast_cons_of_ne_nil hb]
  exact infix_cons hi

theorem EndsAtFirst.cons {mark bytes : Bytes} {b : UInt8} (h : EndsAtFirst mark bytes)
    (hb : bytes ≠ []) (hp : ¬ mark <+: b :: bytes) : EndsAtFirst mark (b :: bytes) := by
  refine ⟨h.ends.trans (suffix_cons _ _), fun hi => ?_⟩
  rw [dropLast_cons_of_ne_nil hb, infix_cons_iff] at hi
  rcases hi with hi | hi
  · exact hp (hi.trans (prefix_cons_inj b |>.mpr ( dropLast_prefix bytes)))
  · exact h.first hi

theorem positionFrom?_eq_some_iff {mark : Bytes} (hm : mark ≠ []) (bytes : Bytes) (start i : ℕ) :
    positionFrom? mark start bytes = some i ↔
      ∃ before after, bytes = before ++ mark ++ after ∧ EndsAtFirst mark (before ++ mark) ∧
        start + before.length = i := by
  induction bytes generalizing start with
  | nil => simp [positionFrom?, hm]
  | cons b rest ih =>
      rw [positionFrom?]
      split
      · rename_i hp
        obtain ⟨after, ha⟩ := isPrefixOf_iff_prefix.mp hp
        constructor
        · rintro ⟨⟩
          exact ⟨[], after, ha.symm, endsAtFirst_self hm, rfl⟩
        · rintro ⟨before, after, hb, hf, hi⟩
          have hnil : before = [] := hf.eq_of_prefix (hb ▸ isPrefixOf_iff_prefix.mp hp)
          subst hnil
          exact congrArg some hi
      · rename_i hp
        rw [ isPrefixOf_iff_prefix] at hp
        rw [ih]
        constructor
        · rintro ⟨before, after, rfl, hf, hi⟩
          refine ⟨b :: before, after, rfl, ?_, by simpa using by omega⟩
          refine hf.cons (by simp [hm]) fun h => hp (h.trans ?_)
          exact prefix_append (b :: (before ++ mark)) after
        · rintro ⟨before, after, hb, hf, hi⟩
          cases before with
          | nil => exact (hp ⟨after, hb.symm⟩).elim
          | cons b' before =>
              obtain ⟨rfl, rfl⟩ := List.cons.inj hb
              refine ⟨before, after, rfl, ?_, by simp at hi; omega⟩
              refine hf.of_cons (fun h => hp ⟨after, ?_⟩) (by simp [hm])
              exact congrArg (· ++ after) h

/-- A cut finds exactly the front that ends where the mark first occurs. -/
theorem cutAfter?_eq_some_iff {mark : Bytes} (hm : mark ≠ []) {bytes front back : Bytes} :
    cutAfter? mark bytes = some (front, back) ↔
      bytes = front ++ back ∧ EndsAtFirst mark front := by
  simp only [cutAfter?, Option.map_eq_some_iff, positionFrom?_eq_some_iff hm, splitAt_eq,
    Prod.mk.injEq]
  constructor
  · rintro ⟨i, ⟨before, after, rfl, hf, rfl⟩, rfl, rfl⟩
    have hlen : 0 + before.length + mark.length = (before ++ mark).length := by simp
    simpa only [hlen, take_left, drop_left, true_and] using hf
  · rintro ⟨rfl, hf⟩
    obtain ⟨before, rfl⟩ := hf.ends
    refine ⟨before.length, ⟨before, back, rfl, hf, by simp⟩, ?_⟩
    rw [← length_append]
    exact ⟨take_left, drop_left⟩

theorem cutAfter?_eq_none_iff {mark : Bytes} (hm : mark ≠ []) {bytes : Bytes} :
    cutAfter? mark bytes = none ↔
      ∀ front back, bytes = front ++ back → ¬ EndsAtFirst mark front := by
  simp only [Option.eq_none_iff_forall_ne_some, ne_eq, Prod.forall, cutAfter?_eq_some_iff hm,
    not_and]

/-- A mark that is not there yet ends behind the bytes that are. -/
theorem EndsAtFirst.length_lt {mark bytes more front back : Bytes} (h : EndsAtFirst mark front)
    (hm : mark ≠ []) (hnone : cutAfter? mark bytes = none)
    (he : bytes ++ more = front ++ back) : bytes.length < front.length := by
  by_contra hle
  have hfront : front <+: bytes :=
    prefix_of_prefix_length_le (he ▸ prefix_append front back) (prefix_append bytes more)
      (Nat.le_of_not_lt hle)
  obtain ⟨rest, hrest⟩ := hfront
  exact (cutAfter?_eq_none_iff hm).mp hnone front rest hrest.symm h

/-- At most one front ends where the mark first occurs. -/
theorem EndsAtFirst.unique {mark front front' back back' : Bytes} (h : EndsAtFirst mark front)
    (h' : EndsAtFirst mark front') (hm : mark ≠ []) (he : front ++ back = front' ++ back') :
    front = front' ∧ back = back' := by
  have hcut : cutAfter? mark (front ++ back) = some (front', back') :=
    (cutAfter?_eq_some_iff hm).mpr ⟨he, h'⟩
  rw [(cutAfter?_eq_some_iff hm).mpr ⟨rfl, h⟩] at hcut
  simpa using hcut

/-! ## Lines -/

/-- Lines with their ends, and the empty line behind them. -/
def ofLines (lines : List Bytes) : Bytes := lines.flatMap (· ++ crlf) ++ crlf

theorem ofLines_cons (line : Bytes) (lines : List Bytes) :
    ofLines (line :: lines) = line ++ (crlf ++ ofLines lines) := by
  simp only [ofLines, flatMap_cons, append_assoc]

/-- What stands on one line: something, and no part of a line end. -/
structure IsLine (line : Bytes) : Prop where
  ne_nil : line ≠ []
  cr : 13 ∉ line
  lf : 10 ∉ line

theorem EndsAtFirst.cons_of_ne {bytes : Bytes} {b : UInt8} (h : EndsAtFirst headEnd bytes)
    (hb : b ≠ 13) : EndsAtFirst headEnd (b :: bytes) := by
  refine h.cons ?_ fun hp => hb (prefix_cons_iff.mp hp |>.elim nofun ?_)
  · rintro rfl
    exact absurd h.ends (by decide)
  · rintro ⟨rest, heq, -⟩
    exact (cons.inj heq).1.symm

theorem EndsAtFirst.append_of_notMem {front bytes : Bytes} (h : EndsAtFirst headEnd bytes)
    (hfront : 13 ∉ front) : EndsAtFirst headEnd (front ++ bytes) := by
  induction front with
  | nil => exact h
  | cons b front ih =>
      rw [mem_cons, not_or] at hfront
      exact (ih hfront.2).cons_of_ne (Ne.symm hfront.1)

/-- A blank line stands behind lines and nowhere before. -/
theorem endsAtFirst_ofLines {lines : List Bytes} (hne : lines ≠ [])
    (hlines : ∀ line ∈ lines, IsLine line) : EndsAtFirst headEnd (ofLines lines) := by
  induction lines with
  | nil => exact (hne rfl).elim
  | cons line lines ih =>
      obtain ⟨hline, hmore⟩ := forall_mem_cons.mp hlines
      rw [ofLines_cons]
      refine EndsAtFirst.append_of_notMem ?_ hline.cr
      cases lines with
      | nil => exact endsAtFirst_self (by decide)
      | cons next lines =>
          have hnext := hmore next mem_cons_self
          obtain ⟨b, tail, rfl⟩ := exists_cons_of_ne_nil hnext.ne_nil
          refine ((ih (cons_ne_nil _ _) hmore).cons_of_ne (by decide)).cons (cons_ne_nil _ _) ?_
          intro hp
          rw [ofLines_cons] at hp
          simp only [headEnd, cons_append, cons_prefix_cons, true_and] at hp
          exact hnext.cr (by rw [hp.1]; exact mem_cons_self)

end TrafficCapture.Bytes
