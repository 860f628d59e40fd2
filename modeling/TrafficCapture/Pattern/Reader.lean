import TrafficCapture.Pattern.SyntaxError
import TrafficCapture.Text.Search

/-! Reading a pattern from left to right. What a reader leaves is never longer than what it was
given, so loops that take a character in every round come to an end. -/

namespace TrafficCapture.Pattern

/-- A reader of a value off the front of a text. -/
def Reader (α : Type) : Type :=
  (cs : List Char) → Except SyntaxError (α × {rest : List Char // rest.length ≤ cs.length})

namespace Reader

variable {α β σ : Type}

instance : Monad Reader where
  pure a := fun cs => .ok (a, ⟨cs, Nat.le_refl _⟩)
  bind r f := fun cs =>
    match r cs with
    | .error e => .error e
    | .ok (a, rest) =>
      match f a rest.1 with
      | .error e => .error e
      | .ok (b, rest') => .ok (b, ⟨rest'.1, Nat.le_trans rest'.2 rest.2⟩)

def fail (e : SyntaxError) : Reader α := fun _ => .error e

def ofExcept (x : Except SyntaxError α) : Reader α := fun cs =>
  x.map fun a => (a, ⟨cs, Nat.le_refl _⟩)

/-- All that is left, which stays there. -/
def rest : Reader (List Char) := fun cs => .ok (cs, ⟨cs, Nat.le_refl _⟩)

/-- The next character, which stays there. -/
def peek? : Reader (Option Char) := fun cs => .ok (cs.head?, ⟨cs, Nat.le_refl _⟩)

/-- The next character, which stays there; its absence is the given error. -/
def peek (atEnd : SyntaxError) : Reader Char := fun cs =>
  match cs with
  | [] => .error atEnd
  | c :: more => .ok (c, ⟨c :: more, Nat.le_refl _⟩)

/-- Drops as many characters. -/
def drop (n : Nat) : Reader Unit := fun cs =>
  .ok ((), ⟨cs.drop n, by simp⟩)

def dropWhile (p : Char → Bool) : Reader Unit := fun cs =>
  .ok ((), ⟨cs.dropWhile p, (List.dropWhile_suffix p).length_le⟩)

/-- Drops a text if it comes next, and says whether it did. -/
def dropIf (text : List Char) : Reader Bool := do
  if text.isPrefixOf (← rest) then
    drop text.length
    return true
  else return false

end Reader

/-! ### White space and comments -/

/-- Drops white space and comments, which run from `#` to the end of the line. The flag says that
a comment is open. -/
def dropBlanks (inComment : Bool) : List Char → List Char
  | [] => []
  | c :: cs =>
    if inComment then dropBlanks (c != '\n') cs
    else if Text.isBlank c then dropBlanks false cs
    else if c == '#' then dropBlanks true cs
    else c :: cs

theorem dropBlanks_length (inComment : Bool) (cs : List Char) :
    (dropBlanks inComment cs).length ≤ cs.length := by
  induction cs generalizing inComment with
  | nil => exact Nat.le_refl _
  | cons c cs ih =>
      unfold dropBlanks
      split
      · exact Nat.le_succ_of_le (ih _)
      · split
        · exact Nat.le_succ_of_le (ih _)
        · split
          · exact Nat.le_succ_of_le (ih _)
          · exact Nat.le_refl _

namespace Reader

/-- Drops white space and comments where they do not count. -/
def blanks (verbose : Bool) : Reader Unit := fun cs =>
  if verbose then .ok ((), ⟨dropBlanks false cs, dropBlanks_length _ _⟩)
  else .ok ((), ⟨cs, Nat.le_refl _⟩)

/-- What a round of a loop comes to: another round, an end behind what it read, or an end in front
of the character that it was offered. -/
inductive Round (σ β : Type) where
  | again (s : σ)
  | done (b : β)
  | leave (b : β)

variable {α β σ : Type}

/-- Offers one character after another to a step that keeps a state. Where `verbose` holds of the
state, white space and comments are dropped first. -/
def loopWithin (verbose : σ → Bool) (step : σ → Char → Reader (Round σ β))
    (atEnd : σ → Except SyntaxError β) (bound : Nat) (s : σ) (cs : List Char)
    (within : cs.length ≤ bound) :
    Except SyntaxError (β × {rest : List Char // rest.length ≤ bound}) :=
  match hcs : cs with
  | [] => (atEnd s).map fun b => (b, ⟨[], Nat.zero_le _⟩)
  | c :: more =>
    have hmore : more.length < bound := by simp only [List.length_cons] at within; omega
    if verbose s && Text.isBlank c then
      have := dropBlanks_length false more
      loopWithin verbose step atEnd bound s (dropBlanks false more) (by omega)
    else if verbose s && c == '#' then
      have := dropBlanks_length true more
      loopWithin verbose step atEnd bound s (dropBlanks true more) (by omega)
    else
      match step s c more with
      | .error e => .error e
      | .ok (.done b, rest) => .ok (b, ⟨rest.1, Nat.le_trans rest.2 (Nat.le_of_lt hmore)⟩)
      | .ok (.leave b, _) => .ok (b, ⟨cs, hcs ▸ within⟩)
      | .ok (.again s', rest) =>
        have := rest.2
        loopWithin verbose step atEnd bound s' rest.1 (by omega)
termination_by cs.length
decreasing_by
  all_goals
    show List.length _ < List.length _
    simp only [List.length_cons]
    omega

@[inherit_doc loopWithin]
def loop (verbose : σ → Bool) (step : σ → Char → Reader (Round σ β))
    (atEnd : σ → Except SyntaxError β) (s : σ) : Reader β := fun cs =>
  loopWithin verbose step atEnd cs.length s cs (Nat.le_refl _)

end Reader

end TrafficCapture.Pattern
