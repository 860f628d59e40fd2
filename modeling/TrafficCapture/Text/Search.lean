/-! Splitting, searching and trimming of character lists. -/

namespace TrafficCapture.Text

/-- The stretches between occurrences of `mark`; there is always one more than there are marks. -/
def fields (mark : Char) (cs : List Char) : List (List Char) :=
  cs.foldr
    (fun c parts =>
      if c == mark then [] :: parts
      else
        match parts with
        | [] => [[c]]
        | front :: more => (c :: front) :: more)
    [[]]

/-- Cuts at the first `mark`, which is dropped; without one the second part is absent. -/
def cutAt (mark : Char) (cs : List Char) : List Char × Option (List Char) :=
  match cs.span (· != mark) with
  | (front, []) => (front, none)
  | (front, _ :: back) => (front, some back)

/-- Cuts at the last `mark`, which is dropped. -/
def cutAtLast? (mark : Char) (cs : List Char) : Option (List Char × List Char) :=
  match cutAt mark cs.reverse with
  | (_, none) => none
  | (back, some front) => some (front.reverse, back.reverse)

/-- Whether `sought` occurs in the text as a contiguous stretch. -/
def occursIn (sought : List Char) : List Char → Bool
  | [] => sought.isEmpty
  | c :: rest => sought.isPrefixOf (c :: rest) || occursIn sought rest

def contains (text sought : String) : Bool := occursIn sought.toList text.toList

/-- What follows `front` in a text that begins with it. -/
def dropFront? : List Char → List Char → Option (List Char)
  | [], rest => some rest
  | f :: front, c :: rest => if f == c then dropFront? front rest else none
  | _ :: _, [] => none

/-! ### White space -/

/-- A character with the property White_Space. -/
def isBlank (c : Char) : Bool :=
  let n := c.toNat
  (9 ≤ n && n ≤ 13) || n == 0x20 || n == 0x85 || n == 0xA0 || n == 0x1680 ||
    (0x2000 ≤ n && n ≤ 0x200A) || n == 0x2028 || n == 0x2029 || n == 0x202F || n == 0x205F ||
    n == 0x3000

/-- Drops the characters that satisfy `p` from the end. -/
def dropEndWhile (p : Char → Bool) (cs : List Char) : List Char :=
  (cs.reverse.dropWhile p).reverse

/-- Removes white space at both ends. -/
def trim (cs : List Char) : List Char := dropEndWhile isBlank (cs.dropWhile isBlank)

end TrafficCapture.Text
