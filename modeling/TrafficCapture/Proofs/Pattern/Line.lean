import Mathlib.Order.Basic
import TrafficCapture.Pattern

/-! # The pattern for any characters

A dot stands for every character but a line feed, so `.*` asks for texts of a single line. -/

namespace TrafficCapture.Pattern

open Unicode (Charset)

deriving instance DecidableEq for Track
deriving instance DecidableEq for TrafficCapture.Pattern

/-- The characters that a dot stands for. -/
def dot : Charset := ⟨[(0, 9), (11, Charset.greatest)]⟩

/-- What `.*` compiles to, with or without a mark on its characters. -/
def line (marked : Bool) : Track :=
  .seq (.check .textStart) (.seq (.star (.chars dot marked)) (.check .textEnd))

theorem compile_dotStar : compile ".*" = .ok ⟨".*", line false⟩ := by decide +kernel

theorem contains_dot {c : Char} : dot.contains c = true ↔ c ≠ '\n' := by
  have hlt : c.toNat < 1114112 := by
    rcases c.valid with h | ⟨-, h⟩
    · exact Nat.lt_trans h (by decide)
    · exact h
  have hfeed : c = '\n' ↔ c.toNat = 10 := ⟨by rintro rfl; rfl, fun h => Char.toNat_inj.mp h⟩
  rw [Ne, hfeed]
  simp only [dot, Charset.contains, Charset.containsCode, Charset.greatest, Bool.and_eq_true,
    Bool.or_eq_true, decide_eq_true_eq]
  omega

/-- The expression goes on only from the beginning of the text, and over line feeds not at all. -/
theorem foundBehind_line {marked : Bool} {before : Option Char} {text : List Char} :
    (line marked).foundBehind before text = true ↔
      (before = none ∨ marked = true) ∧ '\n' ∉ text := by
  induction text generalizing marked before with
  | nil => simp [Track.foundBehind, line, Track.ended, Track.skippable, Check.holds, or_comm]
  | cons c rest ih =>
      have hread : (line marked).read ⟨before, some c⟩ c true =
          line ((before.isNone || marked) && dot.contains c) := by
        simp [line, Track.read, Track.skippable, Track.ended, Check.holds]
      have hhere : ((line marked).ended ⟨before, some c⟩ ||
          (line marked).skippable ⟨before, some c⟩) = false := by
        simp [line, Track.skippable, Track.ended, Check.holds]
      rw [Track.foundBehind]
      simp only [List.head?_cons, hhere, hread, Bool.false_or, ih, Bool.and_eq_true, contains_dot]
      simp [eq_comm (a := c), and_assoc]

/-- The texts of a single line are all that `.*` accepts. -/
theorem accepts_line {source text : String} :
    accepts ⟨source, line false⟩ text = true ↔ '\n' ∉ text.toList :=
  foundBehind_line.trans (and_iff_right (.inl rfl))

end TrafficCapture.Pattern
