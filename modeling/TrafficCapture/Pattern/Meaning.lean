import TrafficCapture.Pattern.Ast
import TrafficCapture.Pattern.Regex
import TrafficCapture.Pattern.SyntaxError
import TrafficCapture.Unicode.Folding
import TrafficCapture.Unicode.Query

/-! The regular expression that a pattern stands for under the flags that are in force. -/

namespace TrafficCapture.Pattern

open Unicode (Charset)

/-- The flags that are in force. -/
structure Options where
  caseInsensitive : Bool
  multiLine : Bool
  dotMatchesNewLine : Bool
  unicode : Bool
  crlf : Bool

namespace Options

/-- The flags in force at the beginning of a pattern. -/
def initial : Options := ⟨false, false, false, true, false⟩

def apply (o : Options) (changes : FlagChanges) : Options where
  caseInsensitive := (changes.lookup .caseInsensitive).getD o.caseInsensitive
  multiLine := (changes.lookup .multiLine).getD o.multiLine
  dotMatchesNewLine := (changes.lookup .dotMatchesNewLine).getD o.dotMatchesNewLine
  unicode := (changes.lookup .unicode).getD o.unicode
  crlf := (changes.lookup .crlf).getD o.crlf

/-- Adds the other cases of each member, where case does not count. -/
def fold (o : Options) (set : Charset) : Charset :=
  if !o.caseInsensitive then set
  else if o.unicode then Unicode.Folding.close set
  else Unicode.Folding.closeAscii set

/-- Adds the other cases and then takes the complement. Without Unicode the complement would hold
bytes that are no characters. -/
def foldAndNegate (o : Options) (negated : Bool) (set : Charset) :
    Except SyntaxError Charset :=
  let set := o.fold set
  if !negated then .ok set
  else if o.unicode then .ok set.complement
  else .error .invalidUtf8

/-- The set of a class written as one letter. -/
def letterSet (o : Options) : LetterClass → Charset
  | .digit => if o.unicode then Unicode.digits else .ofText "30-39"
  | .space => if o.unicode then Unicode.whiteSpace else .ofText "9-D 20"
  | .word => if o.unicode then Unicode.wordCharacters else .ofText "30-39 41-5A 5F 61-7A"

/-- A class written as one letter; case never counts in it. -/
def letterClass (o : Options) (kind : LetterClass) (negated : Bool) :
    Except SyntaxError Charset :=
  if !negated then .ok (o.letterSet kind)
  else if o.unicode then .ok (o.letterSet kind).complement
  else .error .invalidUtf8

def propertyClass (o : Options) (name : PropertyName) (negated : Bool) :
    Except SyntaxError Charset :=
  if !o.unicode then .error .unicodeNotAllowed
  else
    let found :=
      match name with
      | .name name => Unicode.named name
      | .value property value => Unicode.valued property value
    match found with
    | .ok set => o.foldAndNegate negated set
    | .error .unknownProperty => .error .propertyNotFound
    | .error .unknownValue => .error .propertyValueNotFound

/-- The code point that a literal adds to a class. Without Unicode it has to be ASCII. -/
def classCode (o : Options) (l : Literal) : Except SyntaxError Nat :=
  if o.unicode || l.char.toNat < 0x80 then .ok l.char.toNat
  else if l.isByte then .error .invalidUtf8
  else .error .unicodeNotAllowed

/-- A literal; without Unicode two hexadecimal digits name a byte, which has to be ASCII. -/
def literalSet (o : Options) (l : Literal) : Except SyntaxError Charset :=
  if !o.unicode && l.isByte && 0x80 ≤ l.char.toNat then .error .invalidUtf8
  else .ok (o.fold (.single l.char))

/-- The characters that a dot stands for. -/
def dotSet (o : Options) : Except SyntaxError Charset :=
  if !o.unicode then .error .invalidUtf8
  else if o.dotMatchesNewLine then .ok .all
  else if o.crlf then .ok (Charset.ofText "A D").complement
  else .ok (Charset.ofText "A").complement

def check (o : Options) (a : Assertion) : Check :=
  let word (check : WordCheck) : Check := .word check (o.letterSet .word)
  match a with
  | .lineStart => if o.multiLine then .lineStart o.crlf else .textStart
  | .lineEnd => if o.multiLine then .lineEnd o.crlf else .textEnd
  | .textStart => .textStart
  | .textEnd => .textEnd
  | .wordBoundary => word .boundary
  | .notWordBoundary => word .inside
  | .wordStart => word .start
  | .wordEnd => word .finish
  | .wordStartHalf => word .startHalf
  | .wordEndHalf => word .finishHalf

def combine : SetOperator → Charset → Charset → Charset
  | .intersection, a, b => a.inter b
  | .difference, a, b => a.diff b
  | .symmetricDifference, a, b => a.symmDiff b

end Options

mutual

/-- The characters that a class stands for. -/
def CharClass.set (o : Options) : CharClass → Except SyntaxError Charset
  | .empty => .ok .empty
  | .literal l => do
    let n ← o.classCode l
    return .range n n
  | .range first last => do
    let first ← o.classCode first
    let last ← o.classCode last
    return .range first last
  | .ascii set negated => o.foldAndNegate negated set
  | .property name negated => o.propertyClass name negated
  | .letter kind negated => o.letterClass kind negated
  | .bracketed negated body => do o.foldAndNegate negated (← body.set o)
  | .union items => do return .ofRanges (← CharClass.rangesOnto o [] items)
  | .combination operator left right => do
    let left ← left.set o
    let right ← right.set o
    return Options.combine operator (o.fold left) (o.fold right)

/-- The ranges of all items, in front of those at hand. -/
def CharClass.rangesOnto (o : Options) (done : List (Nat × Nat)) :
    List CharClass → Except SyntaxError (List (Nat × Nat))
  | [] => .ok done
  | item :: items => do
    let set ← item.set o
    CharClass.rangesOnto o (set.ranges ++ done) items

end

namespace Regex

def isEmpty : Regex → Bool
  | empty => true
  | _ => false

/-- The parts one after another; those that match only the empty text say nothing. -/
def seqOf (parts : List Regex) : Regex :=
  balance seq empty (parts.filter (!·.isEmpty))

/-- The branches of a choice, in front of those at hand. -/
def branchesOnto (done : List Regex) : Regex → List Regex
  | either a b => a.branchesOnto (b.branchesOnto done)
  | r => r :: done

def charset? : Regex → Option Charset
  | chars set => some set
  | _ => none

/-- A choice between branches. Branches of one character each come to a class of characters. -/
def eitherOf (parts : List Regex) : Regex :=
  let branches := parts.foldr (fun r done => r.branchesOnto done) []
  let sets := branches.filterMap charset?
  let singles := (sets.filter (·.only?.isSome)).length
  if sets.length == branches.length && (singles == 0 || singles == sets.length) then
    chars (.unions sets)
  else balance either empty branches

/-- Rounds of an expression. More than one round of an expression that takes no character says no
more than one. -/
def repeated (least : Nat) (most : Option Nat) (r : Regex) : Regex :=
  let (least, most) :=
    if r.weightless then (min least 1, some ((most.map (min · 1)).getD 1)) else (least, most)
  if most == some 0 then empty
  else if least == 1 && most == some 1 then r
  else repetition least most r

end Regex

mutual

/-- The expression of a pattern, and the flags in force behind it. -/
def Ast.regexUnder (o : Options) : Ast → Except SyntaxError (Regex × Options)
  | .empty => .ok (.empty, o)
  | .flags changes => .ok (.empty, o.apply changes)
  | .literal l => do return (.chars (← o.literalSet l), o)
  | .dot => do return (.chars (← o.dotSet), o)
  | .assertion a => .ok (.check (o.check a), o)
  | .charClass c => do return (.chars (← c.set o), o)
  | .repetition least most body => do
    let (r, o) ← body.regexUnder o
    return (Regex.repeated least most r, o)
  | .group .capturing body => do
    let (r, _) ← body.regexUnder o
    return (.capture r, o)
  | .group (.flagged changes) body => do
    let (r, _) ← body.regexUnder (o.apply changes)
    return (r, o)
  | .alternation branches => do
    let (parts, o) ← Ast.regexesOnto o [] branches
    return (Regex.eitherOf parts.reverse, o)
  | .concat items => do
    let (parts, o) ← Ast.regexesOnto o [] items
    return (Regex.seqOf parts.reverse, o)

/-- The expressions of patterns one behind another, last first in front of those at hand. -/
def Ast.regexesOnto (o : Options) (done : List Regex) :
    List Ast → Except SyntaxError (List Regex × Options)
  | [] => .ok (done, o)
  | a :: rest => do
    let (r, o) ← a.regexUnder o
    Ast.regexesOnto o (r :: done) rest

end

/-- The expression of a whole pattern. -/
def Ast.regex (a : Ast) : Except SyntaxError Regex := do
  let (r, _) ← a.regexUnder Options.initial
  return r

end TrafficCapture.Pattern
