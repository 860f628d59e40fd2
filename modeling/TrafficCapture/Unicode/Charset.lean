/-! Sets of characters as ranges of code points, with the operations of a set algebra, and the values
of character properties, as the tables of this folder list them. -/

namespace TrafficCapture.Unicode

/-- A set of characters: the ranges of code points that it covers, lowest first, with a gap
between any two of them. -/
structure Charset where
  ranges : List (Nat × Nat)
  deriving Repr, DecidableEq

namespace Charset

/-- The greatest code point. -/
def greatest : Nat := 0x10FFFF

/-- Puts the range from `low` to `high` in front of ranges that begin no lower, and joins it with
those that it overlaps or touches. -/
def joinOnto (low high : Nat) : List (Nat × Nat) → List (Nat × Nat)
  | [] => [(low, high)]
  | (a, b) :: rest =>
    if a ≤ high + 1 then joinOnto low (max high b) rest
    else (low, high) :: joinOnto a b rest

/-- The set of all code points in any of the ranges. -/
def ofRanges (ranges : List (Nat × Nat)) : Charset :=
  match ranges.mergeSort (fun a b => a.1 ≤ b.1) with
  | [] => ⟨[]⟩
  | (a, b) :: rest => ⟨joinOnto a b rest⟩

def empty : Charset := ⟨[]⟩

def all : Charset := ⟨[(0, greatest)]⟩

def range (low high : Nat) : Charset := ⟨[(low, high)]⟩

def single (c : Char) : Charset := range c.toNat c.toNat

/-- Whether a code point lies in one of the ranges, which are in ascending order. -/
def containsCode (n : Nat) : List (Nat × Nat) → Bool
  | [] => false
  | (a, b) :: rest => a ≤ n && (n ≤ b || containsCode n rest)

def contains (s : Charset) (c : Char) : Bool := containsCode c.toNat s.ranges

def union (s t : Charset) : Charset := ofRanges (s.ranges ++ t.ranges)

def unions (sets : List Charset) : Charset := ofRanges (sets.flatMap ranges)

/-- The ranges between the given ones, from `start` on. -/
def gapsFrom (start : Nat) : List (Nat × Nat) → List (Nat × Nat)
  | [] => if start ≤ greatest then [(start, greatest)] else []
  | (a, b) :: rest =>
    if start < a then (start, a - 1) :: gapsFrom (b + 1) rest else gapsFrom (b + 1) rest

def complement (s : Charset) : Charset := ⟨gapsFrom 0 s.ranges⟩

def inter (s t : Charset) : Charset := (s.complement.union t.complement).complement

def diff (s t : Charset) : Charset := s.inter t.complement

def symmDiff (s t : Charset) : Charset := (s.diff t).union (t.diff s)

/-- Whether the set holds ASCII characters alone. -/
def isAscii (s : Charset) : Bool := s.ranges.all (·.2 ≤ 0x7F)

/-- The only member of a set that has just one. -/
def only? (s : Charset) : Option Nat :=
  match s.ranges with
  | [(a, b)] => if a == b then some a else none
  | _ => none

/-! ### Sets written as text -/

/-- The value of a hexadecimal numeral in upper-case digits. -/
def codeOfText (digits : List Char) : Nat :=
  digits.foldl
    (fun n d => n * 16 + if d.isDigit then d.toNat - 48 else d.toNat - 55) 0

/-- Every `stride`-th code point from `low` to `high`. -/
def strided (low high stride : Nat) : List (Nat × Nat) :=
  (List.range ((high - low) / stride + 1)).map fun k => (low + k * stride, low + k * stride)

/-- The code points that one item names: `41` stands for itself, `41-5A` for a range, and
`100-12E/2` for every second code point of a range. -/
def rangesOfItem (item : List Char) : List (Nat × Nat) :=
  match item.span (· != '-') with
  | (code, []) => [(codeOfText code, codeOfText code)]
  | (low, _ :: rest) =>
    match rest.span (· != '/') with
    | (high, []) => [(codeOfText low, codeOfText high)]
    | (high, _ :: stride) => strided (codeOfText low) (codeOfText high) (codeOfText stride)

/-- The items of a text, which stand between blanks and line ends. -/
def items (text : String) : List (List Char) :=
  ((text.toList.map fun c => if c == '\n' then ' ' else c).splitOn ' ').filter (!·.isEmpty)

/-- The set that a text of items names. -/
def ofText (text : String) : Charset := ofRanges ((items text).flatMap rangesOfItem)

end Charset

/-- A value of a property, or a property that holds or not: the names it goes by, in lower case and
without separators, and the characters that have it. -/
structure PropertyValue where
  names : List String
  characters : String

namespace PropertyValue

def charset (v : PropertyValue) : Charset := Charset.ofText v.characters

/-- The set of characters that have the value of that name. -/
def find? (table : List PropertyValue) (name : String) : Option Charset :=
  (table.find? (·.names.contains name)).map charset

end PropertyValue

end TrafficCapture.Unicode
