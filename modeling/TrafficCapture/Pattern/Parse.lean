import TrafficCapture.Pattern.Bracket
import TrafficCapture.Unicode.Derived

/-! Reading a whole pattern: items, repetitions, groups and choices. -/

namespace TrafficCapture.Pattern

open Reader

/-! ### Groups -/

/-- Whether a character may stand in the name of a group. -/
def isGroupNameChar (first : Bool) (c : Char) : Bool :=
  if c == '_' then true
  else if first then
    if c.toNat < 0x80 then c.isAlpha else Unicode.alphabetic.contains c
  else if c.toNat < 0x80 then c.isAlphanum || c == '.' || c == '[' || c == ']'
  else Unicode.alphanumeric.contains c

/-- Reads the name of a group and the bracket behind it. -/
def readGroupName (taken : List (List Char)) : Reader (List Char) := do
  let name ← loop (fun _ => false)
    (fun (done : List Char) c =>
      if c == '>' then pure (.done done.reverse)
      else if isGroupNameChar done.isEmpty c then pure (.again (c :: done))
      else fail .groupNameInvalid)
    (fun _ => .error .groupNameUnexpectedEnd) []
  if name.isEmpty then fail .groupNameEmpty
  if taken.contains name then fail .groupNameDuplicate
  return name

/-- Flags that have been read: the changes, last first, whether a dash has come, and whether one
has just come. -/
structure FlagRun where
  changes : FlagChanges
  negated : Bool
  dangling : Bool

/-- Reads flags and the character that ends them, and says whether it is a colon. -/
def readFlags : Reader (FlagChanges × Bool) := do
  let (run, colon) ← loop (fun _ => false)
    (fun (run : FlagRun) c =>
      if c == ':' || c == ')' then pure (.done (run, c == ':'))
      else if c == '-' then
        if run.negated then fail .flagRepeatedNegation
        else pure (.again { run with negated := true, dangling := true })
      else
        match Flag.ofChar? c with
        | none => fail .flagUnrecognized
        | some flag =>
          if run.changes.any (·.1 == flag) then fail .flagDuplicate
          else
            pure (.again
              { run with changes := (flag, !run.negated) :: run.changes, dangling := false }))
    (fun _ => .error .flagUnexpectedEnd) ⟨[], false, false⟩
  if run.dangling then fail .flagDanglingNegation
  return (run.changes.reverse, colon)

/-- What an opening parenthesis comes to. -/
inductive Opening where
  | changes (changes : FlagChanges)
  | unnamed (kind : GroupKind)
  | named (name : List Char)

/-- Reads what follows an opening parenthesis. -/
def readOpening (verbose : Bool) (taken : List (List Char)) : Reader Opening := do
  blanks verbose
  let ahead ← rest
  if [['?', '='], ['?', '!'], ['?', '<', '='], ['?', '<', '!']].any (·.isPrefixOf ahead) then
    fail .lookAroundUnsupported
  if ← dropIf ['?', 'P', '<'] <||> dropIf ['?', '<'] then
    return .named (← readGroupName taken)
  else if ← dropIf ['?'] then
    discard (peek .groupUnclosed)
    let (changes, colon) ← readFlags
    if colon then return .unnamed (.flagged changes)
    else if changes.isEmpty then fail .repetitionMissing
    else return .changes changes
  else return .unnamed .capturing

/-! ### Repetitions -/

/-- The greatest number that a repetition may count to. -/
def greatestCount : Nat := 4294967295

/-- Reads a number. That it is missing or too great matters only where it is used. -/
def readCount (verbose : Bool) : Reader (Except SyntaxError Nat) := do
  dropWhile Text.isBlank
  let digits ← loop (fun _ => verbose)
    (fun (digits : List Char) c =>
      pure (if c.isDigit then .again (c :: digits) else .leave digits))
    .ok []
  dropWhile Text.isBlank
  if digits.isEmpty then return .error .repetitionCountDecimalEmpty
  let value := digits.foldr (fun c n => n * 10 + (c.toNat - 48)) 0
  return if value ≤ greatestCount then .ok value else .error .decimalInvalid

/-- Reads the numbers of a repetition behind the opening brace, and the closing one. -/
def readCounts (verbose : Bool) : Reader (Nat × Option Nat) := do
  blanks verbose
  discard (peek .repetitionCountUnclosed)
  let least ← readCount verbose
  if (← peek .repetitionCountUnclosed) == ',' then
    drop 1
    blanks verbose
    if (← peek .repetitionCountUnclosed) == '\x7d' then
      let least ← ofExcept least
      drop 1
      return (least, none)
    let least ← ofExcept least
    let most ← ofExcept (← readCount verbose)
    if (← peek .repetitionCountUnclosed) != '\x7d' then fail .repetitionCountUnclosed
    drop 1
    return (least, some most)
  else
    let least ← ofExcept least
    if (← peek .repetitionCountUnclosed) != '\x7d' then fail .repetitionCountUnclosed
    drop 1
    return (least, some least)

/-- Reads the rest of a repetition, whose first character is given. That it prefers few rounds to
many changes nothing about which texts it matches. -/
def readRepetition (verbose : Bool) (c : Char) : Reader (Nat × Option Nat) := do
  let counts ←
    if c == '?' then pure (0, some 1)
    else if c == '*' then pure (0, none)
    else if c == '+' then pure (1, none)
    else do
      let counts ← readCounts verbose
      blanks verbose
      pure counts
  discard (dropIf ['?'])
  match counts with
  | (least, some most) => if most < least then fail .repetitionCountInvalid
  | _ => pure ()
  return counts

/-! ### Patterns -/

/-- What stands between one pair of parentheses so far: complete branches, and the items of the
current one, both last first. -/
structure Level where
  branches : List Ast
  items : List Ast

namespace Level

def new : Level := ⟨[], []⟩

def push (level : Level) (item : Ast) : Level := { level with items := item :: level.items }

def branch (level : Level) : Level := ⟨Ast.ofItems level.items.reverse :: level.branches, []⟩

def close (level : Level) : Ast := Ast.ofBranches level.branch.branches.reverse

end Level

/-- A group that is still open: its kind, what stands around it, and whether white space counts
again behind it. -/
structure OpenGroup where
  kind : GroupKind
  around : Level
  verboseBehind : Bool

/-- A pattern that has been read in part. -/
structure Partial where
  verbose : Bool
  names : List (List Char)
  level : Level
  groups : List OpenGroup

namespace Partial

def new : Partial := ⟨false, [], Level.new, []⟩

def push (p : Partial) (item : Ast) : Partial := { p with level := p.level.push item }

/-- Opens a group in which white space counts or not as its flags say. -/
def enter (p : Partial) (kind : GroupKind) : Partial :=
  let verbose :=
    match kind with
    | .capturing => p.verbose
    | .flagged changes => (changes.lookup .verbose).getD p.verbose
  { p with verbose, level := Level.new, groups := ⟨kind, p.level, p.verbose⟩ :: p.groups }

/-- Ends the innermost group. -/
def leave (p : Partial) : Except SyntaxError Partial :=
  match p.groups with
  | [] => .error .groupUnopened
  | group :: groups =>
    .ok { p with
      verbose := group.verboseBehind
      level := group.around.push (.group group.kind p.level.close)
      groups }

/-- The item in front, which an operator repeats, and what stands before it. -/
def repeated (p : Partial) : Except SyntaxError (Ast × Partial) :=
  match p.level.items with
  | [] => .error .repetitionMissing
  | item :: items =>
    if item.repeatable then .ok (item, { p with level := { p.level with items } })
    else .error .repetitionMissing

/-- The whole pattern, if no group is open. -/
def finish (p : Partial) : Except SyntaxError Ast :=
  if p.groups.isEmpty then .ok p.level.close else .error .groupUnclosed

end Partial

def isRepetition (c : Char) : Bool :=
  c == '?' || c == '*' || c == '+' || c == '\x7b'

/-- Reads what begins with the given character onto a pattern. -/
def readOnto (p : Partial) (c : Char) : Reader Partial := do
  if c == '(' then
    match ← readOpening p.verbose p.names with
    | .changes changes =>
      return { p.push (.flags changes) with
        verbose := (changes.lookup .verbose).getD p.verbose }
    | .unnamed kind => return p.enter kind
    | .named name => return { p.enter .capturing with names := name :: p.names }
  else if c == ')' then ofExcept p.leave
  else if c == '|' then return { p with level := p.level.branch }
  else if c == '[' then return p.push (.charClass (← readBracketed p.verbose))
  else if isRepetition c then
    let (item, p) ← ofExcept p.repeated
    let (least, most) ← readRepetition p.verbose c
    return p.push (.repetition least most item)
  else if c == '\\' then return p.push (← readEscape p.verbose)
  else if c == '.' then return p.push .dot
  else if c == '^' then return p.push (.assertion .lineStart)
  else if c == '$' then return p.push (.assertion .lineEnd)
  else return p.push (.literal ⟨c, false⟩)

/-- Reads a pattern to its end. -/
def readPattern : Reader Ast :=
  loop Partial.verbose (fun p c => do return .again (← readOnto p c)) Partial.finish Partial.new

/-- The pattern that a text writes. -/
def Ast.parse (text : List Char) : Except SyntaxError Ast := do
  let (pattern, _) ← readPattern text
  if pattern.nestsWithin nestingLimit then return pattern else throw .nestingLimitExceeded

end TrafficCapture.Pattern
