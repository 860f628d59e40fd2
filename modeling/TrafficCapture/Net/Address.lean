import TrafficCapture.Text.Ascii
import TrafficCapture.Text.Numeral
import TrafficCapture.Text.Search

/-! Internet addresses in text. -/

namespace TrafficCapture.Net

/-- An address of either family. -/
inductive Ip where
  | v4 (octets : List Nat)
  | v6 (groups : List Nat)
  deriving DecidableEq, Repr

namespace Ip

/-- Reads a number of at most `digits` digits, and returns what follows it. -/
def number? (radix digits : Nat) (leadingZeros : Bool) (cs : List Char) :
    Option (Nat × List Char) :=
  let (front, rest) := cs.span fun c => (Text.digit? radix c).isSome
  if front.isEmpty || digits < front.length then none
  else if !leadingZeros && front.head? == some '0' && 1 < front.length then none
  else some (front.foldl (fun n c => n * radix + (Text.digit? radix c).getD 0) 0, rest)

/-- Drops a mark before every item but the first. -/
def separator? (mark : Char) (isFirst : Bool) (cs : List Char) : Option (List Char) :=
  if isFirst then some cs
  else
    match cs with
    | c :: rest => if c == mark then some rest else none
    | [] => none

/-- Reads the rest of four numbers up to 255, with dots between them. -/
def octets? : (missing : Nat) → (isFirst : Bool) → List Char → Option (List Nat × List Char)
  | 0, _, cs => some ([], cs)
  | missing + 1, isFirst, cs => do
    let cs ← separator? '.' isFirst cs
    let (n, cs) ← number? 10 3 false cs
    if 255 < n then none
    else
      let (more, cs) ← octets? missing false cs
      return (n :: more, cs)

/-- The two groups that four octets fill. -/
def pairUp : List Nat → List Nat
  | a :: b :: rest => (a * 256 + b) :: pairUp rest
  | _ => []

/-- Reads as many groups as there are, at most `room` of them. Two of them may be written as four
octets, which are then the last; whether they are is said too. -/
def groups : (room : Nat) → (isFirst : Bool) → List Char → List Nat × Bool × List Char
  | 0, _, cs => ([], false, cs)
  | room + 1, isFirst, cs =>
    match separator? ':' isFirst cs with
    | none => ([], false, cs)
    | some behind =>
      match (if room == 0 then none else octets? 4 true behind) with
      | some (octets, rest) => (pairUp octets, true, rest)
      | none =>
        match number? 16 4 true behind with
        | none => ([], false, cs)
        | some (n, rest) =>
          let (more, dotted, rest) := groups room false rest
          (n :: more, dotted, rest)

/-- Reads eight groups, of which two colons stand for one or more that are zero. -/
def eightGroups? (cs : List Char) : Option (List Nat × List Char) :=
  let (front, dotted, rest) := groups 8 true cs
  if front.length == 8 then some (front, rest)
  else if dotted then none
  else
    match rest with
    | ':' :: ':' :: rest =>
      let (back, _, rest) := groups (7 - front.length) true rest
      some (front ++ List.replicate (8 - front.length - back.length) 0 ++ back, rest)
    | _ => none

def parse? (text : List Char) : Option Ip :=
  match octets? 4 true text with
  | some (octets, rest) => if rest.isEmpty then some (.v4 octets) else none
  | none =>
    match eightGroups? text with
    | some (groups, rest) => if rest.isEmpty then some (.v6 groups) else none
    | none => none

def hex (n : Nat) : String := String.ofList (Nat.toDigits 16 n)

/-- Where the longest run of zeros begins, the first among equals, and its length. -/
def longestZeros (groups : List Nat) : Nat × Nat :=
  let (best, _) := groups.zipIdx.foldl
    (fun ((best, current) : (Nat × Nat) × (Nat × Nat)) (n, i) =>
      if n != 0 then (best, (i + 1, 0))
      else
        let current := (current.1, current.2 + 1)
        (if best.2 < current.2 then current else best, current))
    ((0, 0), (0, 0))
  best

/-- Groups are written without leading zeros, and their longest run of two or more zeros is left
out. Addresses that stand for four octets end in those. -/
def render : Ip → String
  | v4 octets => ".".intercalate (octets.map toString)
  | v6 [0, 0, 0, 0, 0, 0xFFFF, a, b] =>
    "::ffff:" ++ ".".intercalate ([a / 256, a % 256, b / 256, b % 256].map toString)
  | v6 groups =>
    let (start, length) := longestZeros groups
    if length < 2 then ":".intercalate (groups.map hex)
    else
      ":".intercalate ((groups.take start).map hex) ++ "::" ++
        ":".intercalate ((groups.drop (start + length)).map hex)

end Ip

/-- An address and a port. -/
structure SocketAddress where
  ip : Ip
  port : UInt16
  deriving DecidableEq, Repr

namespace SocketAddress

def render (a : SocketAddress) : String :=
  let ip :=
    match a.ip with
    | .v4 _ => a.ip.render
    | .v6 _ => "[" ++ a.ip.render ++ "]"
  ip ++ ":" ++ toString a.port.toNat

/-- Removes brackets around an address. -/
def withoutBrackets (host : List Char) : List Char :=
  Text.dropEndWhile (· == ']') (host.dropWhile (· == '['))

/-- Reads an address with its port behind a colon. -/
def parse? (text : String) : Option SocketAddress := do
  let (host, port) ← Text.cutAtLast? ':' text.toList
  let ip ← Ip.parse? (withoutBrackets host)
  let port ← (Text.readPort port).toOption
  return ⟨ip, port⟩

end SocketAddress

end TrafficCapture.Net
