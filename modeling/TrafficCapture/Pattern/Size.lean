import TrafficCapture.Pattern.Regex

/-! How much room the state machines of an expression take, one that reads texts forwards and one
that reads them backwards, both byte by byte. -/

namespace TrafficCapture.Pattern

open Unicode (Charset)

/-- A range of bytes. -/
abbrev ByteRange := Nat × Nat

/-! ### The bytes of characters -/

/-- Byte sequences for the numbers from `low` to `high` in base 64, with `more` digits behind the
first one; `lead` is what marks the first byte. Each sequence covers a full block of the digits
behind the first one that varies. -/
def byteSequences (lead : Nat) : Nat → Nat → Nat → List (List ByteRange)
  | 0, low, high => [[(lead + low, lead + high)]]
  | more + 1, low, high =>
    let block := Nat.pow 64 (more + 1)
    let first := low / block
    let last := high / block
    if first == last then
      (byteSequences 0x80 more (low % block) (high % block)).map
        ((lead + first, lead + first) :: ·)
    else
      let front :=
        if low % block == 0 then []
        else (byteSequences 0x80 more (low % block) (block - 1)).map
          ((lead + first, lead + first) :: ·)
      let back :=
        if high % block == block - 1 then []
        else (byteSequences 0x80 more 0 (high % block)).map ((lead + last, lead + last) :: ·)
      let start := if low % block == 0 then first else first + 1
      let stop := if high % block == block - 1 then last + 1 else last
      let middle :=
        if start < stop then
          [(lead + start, lead + stop - 1) :: List.replicate (more + 1) (0x80, 0xBF)]
        else []
      front ++ middle ++ back

/-- The part of a range that lies between two code points. -/
def clip (low high : Nat) (r : Nat × Nat) : Option (Nat × Nat) :=
  if max low r.1 ≤ min high r.2 then some (max low r.1, min high r.2) else none

/-- The byte sequences of the characters of a range, in ascending order. -/
def sequencesOfRange (r : Nat × Nat) : List (List ByteRange) :=
  let part (low high lead more : Nat) : List (List ByteRange) :=
    match clip low high r with
    | none => []
    | some (low, high) => byteSequences lead more low high
  part 0 0x7F 0 0 ++ part 0x80 0x7FF 0xC0 1 ++ part 0x800 0xD7FF 0xE0 2 ++
    part 0xE000 0xFFFF 0xE0 2 ++ part 0x10000 0x10FFFF 0xF0 3

/-- The byte sequences of the characters of a set, in ascending order. -/
def sequencesOf (s : Charset) : List (List ByteRange) := s.ranges.flatMap sequencesOfRange

/-! ### Machines -/

/-- States of a machine that reads bytes forwards: the moves to other states, which have been
numbered before. Equal states are kept once. -/
abbrev StateTable := List (List (ByteRange × Nat))

/-- The number of a state, which is added to the table if it is new. Number zero is the end. -/
def StateTable.number (moves : List (ByteRange × Nat)) (table : StateTable) :
    Nat × StateTable :=
  match table.findIdx? (· == moves) with
  | some i => (table.length - i, table)
  | none => (table.length + 1, moves :: table)

/-- The sequences that begin alike, as far as they follow each other. -/
def groupByHead (sequences : List (List ByteRange)) : List (ByteRange × List (List ByteRange)) :=
  sequences.foldr
    (fun s groups =>
      match s with
      | [] => groups
      | head :: tail =>
        match groups with
        | [] => [(head, [tail])]
        | (head', tails) :: more =>
          if head == head' then (head, tail :: tails) :: more
          else (head, [tail]) :: (head', tails) :: more)
    []

/-- The state that accepts sequences of at most `depth` bytes. -/
def stateOf (depth : Nat) (sequences : List (List ByteRange)) (table : StateTable) :
    Nat × StateTable :=
  match depth with
  | 0 => (0, table)
  | depth + 1 =>
    let (moves, table) :=
      (groupByHead sequences).foldl
        (fun (moves, table) (head, tails) =>
          if tails.all List.isEmpty then ((head, 0) :: moves, table)
          else
            let (n, table) := stateOf depth tails table
            ((head, n) :: moves, table))
        ([], table)
    StateTable.number moves table

/-- Room for one state, for each move of a state that has several, and for each branch. -/
def stateRoom : Nat := 32

def moveRoom : Nat := 8

def branchRoom : Nat := 4

/-- Room for a class when read forwards: what follows a character is kept once. -/
def forwardClassRoom (sequences : List (List ByteRange)) : Nat :=
  let (_, table) := stateOf 4 sequences []
  table.foldl (fun n moves => n + stateRoom + moveRoom * moves.length) stateRoom

/-- How many different sequences there are, where equal ones follow each other. -/
def countRuns (sequences : List (List ByteRange)) : Nat :=
  (sequences.foldl
    (fun (last, n) s => if last == some s then (last, n) else (some s, n + 1))
    ((none, 0) : Option (List ByteRange) × Nat)).2

/-- Room for a class when read backwards: what leads to a character is kept once. -/
def backwardClassRoom (sequences : List (List ByteRange)) : Nat :=
  let beginnings (n : Nat) : Nat :=
    countRuns ((sequences.filter (n ≤ ·.length)).map (·.take n))
  2 * stateRoom + branchRoom * sequences.length +
    stateRoom * (beginnings 1 + beginnings 2 + beginnings 3 + beginnings 4)

/-- Room for one character out of a set. -/
def classRoom (backward : Bool) (set : Charset) : Nat :=
  match set.only? with
  | some code => stateRoom * (Char.ofNat code).utf8Size
  | none =>
    if set.isAscii then 2 * stateRoom + moveRoom * set.ranges.length
    else if backward then backwardClassRoom (sequencesOf set)
    else forwardClassRoom (sequencesOf set)

namespace Regex

/-- Room for the states of an expression. A branch of a choice takes a link besides. -/
def room (backward : Bool) (asBranch : Bool) (r : Regex) : Nat :=
  let link := if asBranch then branchRoom else 0
  match r with
  | empty => link + stateRoom
  | check _ => link + stateRoom
  | chars set => link + classRoom backward set
  | capture r => link + (if backward then 0 else 2 * stateRoom) + r.room backward false
  | seq a b => link + a.room backward false + b.room backward false
  | either a b =>
    (if asBranch then 0 else 2 * stateRoom) + a.room backward true + b.room backward true
  | repetition least most r =>
    let round := r.room backward false
    let fork := stateRoom + 2 * branchRoom
    link +
      match most with
      | none =>
        if least == 0 then
          if r.consumes then round + fork else round + 2 * fork + stateRoom
        else least * round + fork
      | some most =>
        if least == most then least * round
        else if least == 0 && most == 1 then round + fork + stateRoom
        else
          max stateRoom (least * round) + (most - least) * (round + fork) + stateRoom

/-- Room for the machines of a whole expression. -/
def machineRoom (r : Regex) : Nat :=
  max (r.room false false + 4 * stateRoom) (r.room true false + 2 * stateRoom)

end Regex

end TrafficCapture.Pattern
