import TrafficCapture.Unicode.Charset

/-! Regular expressions with conditions on positions, free of the ways to write them. -/

namespace TrafficCapture.Pattern

open Unicode (Charset)

/-- The characters on both sides of a position in a text, so far as there are any. -/
structure Position where
  before : Option Char
  after : Option Char
  deriving DecidableEq, Repr

/-- How a position lies with regard to words. -/
inductive WordCheck where
  | boundary
  | inside
  | start
  | finish
  | startHalf
  | finishHalf
  deriving DecidableEq, Repr

/-- Conditions on a position that take no character. -/
inductive Check where
  | textStart
  | textEnd
  /-- The beginning of a line; a carriage return may end lines too. -/
  | lineStart (crlf : Bool)
  | lineEnd (crlf : Bool)
  /-- A condition on words, which are made of the given characters. -/
  | word (check : WordCheck) (letters : Charset)
  deriving DecidableEq, Repr

namespace Check

def wordHolds (check : WordCheck) (before after : Bool) : Bool :=
  match check with
  | .boundary => before != after
  | .inside => before == after
  | .start => !before && after
  | .finish => before && !after
  | .startHalf => !before
  | .finishHalf => !after

/-- Whether the condition holds at a position. A line feed behind a carriage return ends no line
of its own. -/
def holds (at_ : Position) : Check → Bool
  | textStart => at_.before.isNone
  | textEnd => at_.after.isNone
  | lineStart crlf =>
    at_.before.isNone || at_.before == some '\n' ||
      (crlf && at_.before == some '\r' && at_.after != some '\n')
  | lineEnd crlf =>
    at_.after.isNone ||
      if crlf then
        at_.after == some '\r' || (at_.after == some '\n' && at_.before != some '\r')
      else at_.after == some '\n'
  | word check letters =>
    wordHolds check (at_.before.any letters.contains) (at_.after.any letters.contains)

end Check

/-- A regular expression. -/
inductive Regex where
  | empty
  | check (c : Check)
  | chars (set : Charset)
  /-- A group whose extent is recorded. -/
  | capture (r : Regex)
  | seq (a b : Regex)
  | either (a b : Regex)
  /-- At least so many rounds, and at most so many if there is a bound. -/
  | repetition (least : Nat) (most : Option Nat) (r : Regex)
  deriving Repr

namespace Regex

/-- Whether every match takes a character. -/
def consumes : Regex → Bool
  | empty => false
  | check _ => false
  | chars set => !set.ranges.isEmpty
  | capture r => r.consumes
  | seq a b => a.consumes || b.consumes
  | either a b => a.consumes && b.consumes
  | repetition least _ r => least != 0 && r.consumes

/-- Whether no match takes a character. -/
def weightless : Regex → Bool
  | empty => true
  | check _ => true
  | chars _ => false
  | capture r => r.weightless
  | seq a b => a.weightless && b.weightless
  | either a b => a.weightless && b.weightless
  | repetition _ _ r => r.weightless

/-- Combines parts by halves, so that the tree is no deeper than it needs to be. -/
def balance (combine : Regex → Regex → Regex) (ofNone : Regex) (parts : List Regex) : Regex :=
  match parts with
  | [] => ofNone
  | [r] => r
  | a :: b :: rest =>
    let half := (rest.length + 2) / 2
    combine (balance combine ofNone ((a :: b :: rest).take half))
      (balance combine ofNone ((a :: b :: rest).drop half))
termination_by parts.length
decreasing_by
  · simp only [List.length_take, List.length_cons]
    omega
  · simp only [List.length_drop, List.length_cons]
    omega

end Regex

end TrafficCapture.Pattern
