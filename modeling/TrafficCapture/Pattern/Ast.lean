import TrafficCapture.Unicode.Charset

/-! Patterns as they are written. -/

namespace TrafficCapture.Pattern

open Unicode (Charset)

inductive Flag where
  | caseInsensitive
  | multiLine
  | dotMatchesNewLine
  | swapGreed
  | unicode
  | crlf
  | verbose
  deriving DecidableEq, Repr

namespace Flag

def ofChar? : Char → Option Flag
  | 'i' => some caseInsensitive
  | 'm' => some multiLine
  | 's' => some dotMatchesNewLine
  | 'U' => some swapGreed
  | 'u' => some unicode
  | 'R' => some crlf
  | 'x' => some verbose
  | _ => none

end Flag

/-- Flags that are switched on or off, each at most once. -/
abbrev FlagChanges := List (Flag × Bool)

/-- Conditions on a position that take no character. -/
inductive Assertion where
  | lineStart
  | lineEnd
  | textStart
  | textEnd
  | wordBoundary
  | notWordBoundary
  | wordStart
  | wordEnd
  | wordStartHalf
  | wordEndHalf
  deriving DecidableEq, Repr

/-- A character that stands for itself. The flag says that it was written as two hexadecimal
digits, which name a byte where Unicode is switched off. -/
structure Literal where
  char : Char
  isByte : Bool
  deriving DecidableEq, Repr

/-- The classes that are written as one letter. -/
inductive LetterClass where
  | digit
  | space
  | word
  deriving DecidableEq, Repr

/-- How a class refers to a property of characters. -/
inductive PropertyName where
  | name (name : List Char)
  | value (property value : List Char)
  deriving DecidableEq, Repr

inductive SetOperator where
  | intersection
  | difference
  | symmetricDifference
  deriving DecidableEq, Repr

/-- A class of characters. -/
inductive CharClass where
  | empty
  | literal (l : Literal)
  | range (first last : Literal)
  | ascii (set : Charset) (negated : Bool)
  | property (name : PropertyName) (negated : Bool)
  | letter (kind : LetterClass) (negated : Bool)
  | bracketed (negated : Bool) (body : CharClass)
  | union (items : List CharClass)
  | combination (operator : SetOperator) (left right : CharClass)

inductive GroupKind where
  | capturing
  | flagged (changes : FlagChanges)
  deriving DecidableEq, Repr

/-- A pattern. -/
inductive Ast where
  | empty
  | flags (changes : FlagChanges)
  | literal (l : Literal)
  | dot
  | assertion (a : Assertion)
  | charClass (c : CharClass)
  | repetition (least : Nat) (most : Option Nat) (body : Ast)
  | group (kind : GroupKind) (body : Ast)
  | alternation (branches : List Ast)
  | concat (items : List Ast)

/-- The class of several items in a row. -/
def CharClass.ofItems : List CharClass → CharClass
  | [] => .empty
  | [item] => item
  | items => .union items

namespace Ast

/-- The pattern of several items in a row. -/
def ofItems : List Ast → Ast
  | [] => .empty
  | [item] => item
  | items => .concat items

/-- The pattern of a choice between branches. -/
def ofBranches : List Ast → Ast
  | [branch] => branch
  | branches => .alternation branches

/-- Whether an operator that repeats what stands in front of it may follow. -/
def repeatable : Ast → Bool
  | .empty => false
  | .flags _ => false
  | _ => true

end Ast

/-! ### Nesting -/

mutual

/-- Whether no more than `limit` brackets and operators stand inside each other. -/
def CharClass.nestsWithin (limit : Nat) : CharClass → Bool
  | .bracketed _ body =>
    match limit with
    | 0 => false
    | limit + 1 => body.nestsWithin limit
  | .union items =>
    match limit with
    | 0 => false
    | limit + 1 => CharClass.allNestWithin limit items
  | .combination _ left right =>
    match limit with
    | 0 => false
    | limit + 1 => left.nestsWithin limit && right.nestsWithin limit
  | _ => true

def CharClass.allNestWithin (limit : Nat) : List CharClass → Bool
  | [] => true
  | item :: items => item.nestsWithin limit && CharClass.allNestWithin limit items

end

mutual

/-- Whether no more than `limit` brackets and operators stand inside each other. -/
def Ast.nestsWithin (limit : Nat) : Ast → Bool
  | .charClass c => c.nestsWithin limit
  | .repetition _ _ body =>
    match limit with
    | 0 => false
    | limit + 1 => body.nestsWithin limit
  | .group _ body =>
    match limit with
    | 0 => false
    | limit + 1 => body.nestsWithin limit
  | .alternation branches =>
    match limit with
    | 0 => false
    | limit + 1 => Ast.allNestWithin limit branches
  | .concat items =>
    match limit with
    | 0 => false
    | limit + 1 => Ast.allNestWithin limit items
  | _ => true

def Ast.allNestWithin (limit : Nat) : List Ast → Bool
  | [] => true
  | a :: rest => a.nestsWithin limit && Ast.allNestWithin limit rest

end

end TrafficCapture.Pattern
