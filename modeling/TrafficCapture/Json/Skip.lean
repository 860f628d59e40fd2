import TrafficCapture.Json.Quoted

/-! Passing over JSON values that nobody asked for. Less is checked than where a value is read:
numbers may be of any size, escapes may stand for half a character, and nesting is not limited. -/

namespace TrafficCapture.Json

/-- Passes a number that nobody asked for; here an early end is a malformed number. -/
def skipNumber (cs : List Char) : Except Fault (List Char) :=
  let digits1 (cs : List Char) : Except Fault (List Char × List Char) :=
    match cs.span Char.isDigit with
    | ([], _) => .error .malformed
    | (digits, rest) => .ok (digits, rest)
  do
    let (digits, rest) ← digits1 cs
    if digits.head? == some '0' && digits.length != 1 then throw .malformed
    match rest with
    | '.' :: more =>
      let (_, more) ← digits1 more
      skipExponent digits1 more
    | more => skipExponent digits1 more
where
  skipExponent (digits1 : List Char → Except Fault (List Char × List Char)) :
      List Char → Except Fault (List Char)
    | c :: rest =>
      if c == 'e' || c == 'E' then
        let rest := match rest with
          | '+' :: more => more
          | '-' :: more => more
          | more => more
        (digits1 rest).map (·.2)
      else .ok (c :: rest)
    | [] => .ok []

/-- Passes a string behind its opening quote; escapes of half a character are let through. -/
def skipText : List Char → Except Fault (List Char)
  | [] => .error .truncated
  | c :: rest =>
    if c == '"' then .ok rest
    else if c == '\\' then
      match rest with
      | [] => .error .truncated
      | e :: more =>
        if e == 'u' then
          match h : readHex4 more with
          | .error f => .error f
          | .ok (_, rest') =>
            have := readHex4_length h
            skipText rest'
        else if (shortEscape? e).isSome then skipText more
        else .error .malformed
    else if c.toNat < 0x20 then .error .malformed
    else skipText rest
termination_by cs => cs.length

/-- The two kinds of container. -/
inductive Bracket where
  | list
  | object
  deriving DecidableEq, Repr

def Bracket.close : Bracket → Char
  | .list => ']'
  | .object => Char.ofNat 0x7D

/-- Passes the name and the colon of a member. -/
def skipName (cs : List Char) : Except Fault (List Char) :=
  match skipBlanks cs with
  | [] => .error .truncated
  | c :: rest =>
    if c == '"' then do
      match skipBlanks (← skipText rest) with
      | [] => throw .truncated
      | ':' :: rest => return rest
      | _ => throw .malformed
    else .error .malformed

mutual

/-- Passes one value inside the given containers, innermost first, and then all that is left of
them. Nesting is not limited here. -/
def skipValue : Nat → List Bracket → List Char → Except Fault (List Char)
  | 0, _, _ => .error .malformed
  | steps + 1, open_, cs =>
    match skipBlanks cs with
    | [] => .error .truncated
    | 'n' :: rest => do skipRest steps true open_ (← expect "ull".toList rest)
    | 't' :: rest => do skipRest steps true open_ (← expect "rue".toList rest)
    | 'f' :: rest => do skipRest steps true open_ (← expect "alse".toList rest)
    | '-' :: rest => do skipRest steps true open_ (← skipNumber rest)
    | '"' :: rest => do skipRest steps true open_ (← skipText rest)
    | '[' :: rest => skipRest steps false (.list :: open_) rest
    | c :: rest =>
      if c == Char.ofNat 0x7B then skipRest steps false (.object :: open_) rest
      else if c.isDigit then do skipRest steps true open_ (← skipNumber (c :: rest))
      else .error .malformed

/-- Goes on behind a value, or at the start of a container when `afterValue` is false. -/
def skipRest : Nat → Bool → List Bracket → List Char → Except Fault (List Char)
  | 0, _, _, _ => .error .malformed
  | _ + 1, _, [], cs => .ok cs
  | steps + 1, afterValue, bracket :: open_, cs =>
    match skipBlanks cs with
    | [] => .error .truncated
    | c :: rest =>
      if c == bracket.close then skipRest steps true open_ rest
      else if afterValue && c != ',' then .error .malformed
      else
        let more := if afterValue then rest else c :: rest
        match bracket with
        | .list => skipValue steps (bracket :: open_) more
        | .object => do skipValue steps (bracket :: open_) (← skipName more)

end

end TrafficCapture.Json
