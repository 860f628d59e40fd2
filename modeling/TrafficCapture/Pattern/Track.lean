import TrafficCapture.Pattern.Regex

/-! Matching a text character by character. An expression keeps track of the places in it that the
text read so far may have led to. -/

namespace TrafficCapture.Pattern

open Unicode (Charset)

/-- An expression without counted rounds. Each class of characters carries a mark that says whether
its character may be the one that was read last. -/
inductive Track where
  | empty
  | check (c : Check)
  | chars (set : Charset) (marked : Bool)
  | seq (a b : Track)
  | either (a b : Track)
  | star (t : Track)
  deriving Repr

namespace Track

/-- So many copies one after another, put together by halves. -/
def power (t : Track) (n : Nat) : Track :=
  if n == 0 then empty
  else if n == 1 then t
  else seq (power t (n / 2)) (power t (n - n / 2))
termination_by n
decreasing_by all_goals simp_all; omega

/-- The expression with its rounds written out, and no character read. -/
def ofRegex : Regex → Track
  | .empty => empty
  | .check c => check c
  | .chars set => chars set false
  | .capture r => ofRegex r
  | .seq a b => seq (ofRegex a) (ofRegex b)
  | .either a b => either (ofRegex a) (ofRegex b)
  | .repetition least most r =>
    let round := ofRegex r
    match most with
    | none => if least == 0 then star round else seq (round.power least) (star round)
    | some most => seq (round.power least) ((either round empty).power (most - least))

/-- Whether the expression matches the empty text at a position. -/
def skippable (at_ : Position) : Track → Bool
  | empty => true
  | check c => c.holds at_
  | chars _ _ => false
  | seq a b => a.skippable at_ && b.skippable at_
  | either a b => a.skippable at_ || b.skippable at_
  | star _ => true

/-- Whether a match of the expression may end at a position, which the marks lead to. -/
def ended (at_ : Position) : Track → Bool
  | empty => false
  | check _ => false
  | chars _ marked => marked
  | seq a b => b.ended at_ || (b.skippable at_ && a.ended at_)
  | either a b => a.ended at_ || b.ended at_
  | star t => t.ended at_

/-- Reads the character behind a position. The flag says whether a match may begin there. -/
def read (at_ : Position) (c : Char) (start : Bool) : Track → Track
  | empty => empty
  | check k => check k
  | chars set _ => chars set (start && set.contains c)
  | seq a b =>
    seq (a.read at_ c start) (b.read at_ c (a.ended at_ || (start && a.skippable at_)))
  | either a b => either (a.read at_ c start) (b.read at_ c start)
  | star t => star (t.read at_ c (start || t.ended at_))

/-- Whether a match begins at or behind the position between `before` and the text, or is going on
there, and ends somewhere behind it. -/
def foundBehind (t : Track) (before : Option Char) (text : List Char) : Bool :=
  let at_ : Position := ⟨before, text.head?⟩
  (t.ended at_ || t.skippable at_) ||
    match text with
    | [] => false
    | c :: rest => (t.read at_ c true).foundBehind (some c) rest

/-- Whether the expression matches some stretch of a text. -/
def foundIn (t : Track) (text : List Char) : Bool := t.foundBehind none text

end Track

end TrafficCapture.Pattern
