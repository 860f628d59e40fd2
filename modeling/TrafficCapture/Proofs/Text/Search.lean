import Mathlib.Data.List.Infix
import Mathlib.Data.List.TakeWhile
import TrafficCapture.Text.Search

/-! # Marks in a text

Splitting and searching, by what the text is put together from. -/

namespace TrafficCapture.Text

open List

variable {mark : Char} {front : List Char}

/-! ## Fields -/

theorem fields_ne_nil (mark : Char) (cs : List Char) : fields mark cs ≠ [] := by
  cases cs with
  | nil => exact cons_ne_nil _ _
  | cons c cs =>
      rw [fields, foldr_cons]
      split
      · exact cons_ne_nil _ _
      · split <;> exact cons_ne_nil _ _

theorem fields_cons_of_ne {c : Char} (h : c ≠ mark) {cs field : List Char}
    {more : List (List Char)} (hcs : fields mark cs = field :: more) :
    fields mark (c :: cs) = (c :: field) :: more := by
  unfold fields at hcs ⊢
  rw [foldr_cons, hcs, if_neg (by simpa using h)]

theorem fields_cons_self (mark : Char) (cs : List Char) :
    fields mark (mark :: cs) = [] :: fields mark cs := by
  unfold fields
  rw [foldr_cons, if_pos (by simp)]

/-- A mark ends a field, whatever comes before and behind. -/
theorem fields_append (mark : Char) (front back : List Char) :
    fields mark (front ++ mark :: back) = fields mark front ++ fields mark back := by
  induction front with
  | nil => exact fields_cons_self mark back
  | cons c front ih =>
      obtain ⟨field, more, hfront⟩ := exists_cons_of_ne_nil (fields_ne_nil mark front)
      rw [cons_append]
      by_cases hc : c = mark
      · rw [hc, fields_cons_self, fields_cons_self, ih, cons_append]
      · rw [hfront, cons_append] at ih
        rw [fields_cons_of_ne hc ih, fields_cons_of_ne hc hfront, cons_append]

theorem fields_of_notMem (h : mark ∉ front) : fields mark front = [front] := by
  induction front with
  | nil => rfl
  | cons c front ih =>
      rw [mem_cons, not_or] at h
      exact fields_cons_of_ne (Ne.symm h.1) (ih h.2)

/-- A field is a contiguous stretch of the text. -/
theorem infix_of_mem_fields {cs field : List Char} (h : field ∈ fields mark cs) :
    field <:+: cs := by
  by_cases hmark : mark ∈ cs
  · obtain ⟨front, back, rfl, hfront⟩ := eq_append_cons_of_mem hmark
    rw [fields_append, fields_of_notMem hfront, singleton_append, mem_cons] at h
    rcases h with rfl | h
    · exact (prefix_append field (mark :: back)).isInfix
    · have hback : back <:+ front ++ mark :: back := ⟨front ++ [mark], by simp⟩
      exact (infix_of_mem_fields h).trans hback.isInfix
  · rw [fields_of_notMem hmark, mem_singleton] at h
    exact h ▸ infix_rfl
termination_by cs.length

/-! ## Cuts -/

theorem cutAt_fst (mark : Char) (cs : List Char) :
    (cutAt mark cs).1 = cs.takeWhile (· != mark) := by
  rw [cutAt, span_eq_takeWhile_dropWhile]
  split <;> simp_all

theorem bne_of_notMem (h : mark ∉ front) : ∀ c ∈ front, (c != mark) = true := by
  intro c hc
  simpa using ne_of_mem_of_not_mem hc h

theorem cutAt_append (h : mark ∉ front) (back : List Char) :
    cutAt mark (front ++ mark :: back) = (front, some back) := by
  have htake : (front ++ mark :: back).takeWhile (· != mark) = front := by
    rw [takeWhile_append_of_pos (bne_of_notMem h)]
    simp
  have hdrop : (front ++ mark :: back).dropWhile (· != mark) = mark :: back := by
    rw [dropWhile_append_of_pos (bne_of_notMem h)]
    simp
  rw [cutAt, span_eq_takeWhile_dropWhile, htake, hdrop]

theorem cutAt_of_notMem (h : mark ∉ front) : cutAt mark front = (front, none) := by
  have htake := takeWhile_eq_self_iff.mpr (bne_of_notMem h)
  have hdrop := dropWhile_eq_nil_iff.mpr (bne_of_notMem h)
  rw [cutAt, span_eq_takeWhile_dropWhile, htake, hdrop]

theorem cutAtLast?_append {back : List Char} (h : mark ∉ back) (front : List Char) :
    cutAtLast? mark (front ++ mark :: back) = some (front, back) := by
  have hback : mark ∉ back.reverse := by simpa using h
  rw [cutAtLast?, reverse_append, reverse_cons, append_assoc, singleton_append,
    cutAt_append hback front.reverse]
  simp

theorem cutAtLast?_of_notMem (h : mark ∉ front) : cutAtLast? mark front = none := by
  have hreverse : mark ∉ front.reverse := by simpa using h
  rw [cutAtLast?, cutAt_of_notMem hreverse]

/-- A text that a mark is in has a last one. -/
theorem exists_last_mark {cs : List Char} (h : mark ∈ cs) :
    ∃ front back, cs = front ++ mark :: back ∧ mark ∉ back := by
  obtain ⟨back, front, hreverse, hback⟩ := eq_append_cons_of_mem (mem_reverse.mpr h)
  refine ⟨front.reverse, back.reverse, ?_, by simpa using hback⟩
  rw [← reverse_reverse cs, hreverse]
  simp

/-! ## Fronts and stretches -/

theorem dropFront?_append (front rest : List Char) :
    dropFront? front (front ++ rest) = some rest := by
  induction front with
  | nil => rfl
  | cons c front ih => simpa [dropFront?] using ih

theorem append_of_dropFront? {front cs rest : List Char} (h : dropFront? front cs = some rest) :
    cs = front ++ rest := by
  induction front generalizing cs with
  | nil => exact Option.some.inj h
  | cons f front ih =>
      cases cs with
      | nil => cases h
      | cons c cs =>
          rw [dropFront?] at h
          split at h
          · rename_i hc
            rw [ih h, eq_of_beq hc, cons_append]
          · cases h

theorem occursIn_iff_infix {sought cs : List Char} :
    occursIn sought cs = true ↔ sought <:+: cs := by
  induction cs with
  | nil => simp [occursIn]
  | cons c cs ih => simp [occursIn, infix_cons_iff, ih]

end TrafficCapture.Text
