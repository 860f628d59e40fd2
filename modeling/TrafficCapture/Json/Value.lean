/-! JSON values, and the compact text that stands for them. -/

namespace TrafficCapture

/-- A JSON value. Members of an object keep their order, and a number that is no integer is kept
as a significand and a power of ten. -/
inductive Json where
  | null
  | bool (b : Bool)
  | int (n : Int)
  | decimal (significand exponent : Int)
  | text (s : String)
  | list (items : List Json)
  | object (members : List (String × Json))
  deriving Repr, Inhabited

namespace Json

def nat (n : Nat) : Json := .int n

/-- An absent value is written as `null`. -/
def option {α : Type} (f : α → Json) : Option α → Json
  | none => .null
  | some a => f a

/-- A member that is left out when its value is absent. -/
def optionalMember {α : Type} (name : String) (f : α → Json) : Option α → List (String × Json)
  | none => []
  | some a => [(name, f a)]

def hexDigit (n : Nat) : Char := if n < 10 then Char.ofNat (48 + n) else Char.ofNat (87 + n)

/-- A character inside a string: quotes, backslashes and control characters are escaped, the
latter by their short escape where there is one. -/
def escape (c : Char) : List Char :=
  if c == '"' then ['\\', '"']
  else if c == '\\' then ['\\', '\\']
  else if 0x20 ≤ c.toNat then [c]
  else
    match c.toNat with
    | 8 => ['\\', 'b']
    | 9 => ['\\', 't']
    | 10 => ['\\', 'n']
    | 12 => ['\\', 'f']
    | 13 => ['\\', 'r']
    | n => ['\\', 'u', '0', '0', hexDigit (n / 16), hexDigit (n % 16)]

/-- Writes a string in front of `rest`. -/
def writeText (s : String) (rest : List Char) : List Char :=
  '"' :: (s.toList.flatMap escape ++ '"' :: rest)

mutual

/-- Writes a value in front of `rest`. -/
def write : Json → List Char → List Char
  | null, rest => "null".toList ++ rest
  | bool true, rest => "true".toList ++ rest
  | bool false, rest => "false".toList ++ rest
  | int n, rest => (toString n).toList ++ rest
  | decimal n e, rest => (toString n ++ "e" ++ toString e).toList ++ rest
  | text s, rest => writeText s rest
  | list items, rest => '[' :: writeItems items (']' :: rest)
  | object members, rest => Char.ofNat 0x7B :: writeMembers members (Char.ofNat 0x7D :: rest)

/-- Writes the items of a list with commas between them. -/
def writeItems : List Json → List Char → List Char
  | [], rest => rest
  | [item], rest => write item rest
  | item :: items, rest => write item (',' :: writeItems items rest)

/-- Writes the members of an object with commas between them. -/
def writeMembers : List (String × Json) → List Char → List Char
  | [], rest => rest
  | [(name, value)], rest => writeText name (':' :: write value rest)
  | (name, value) :: members, rest =>
    writeText name (':' :: write value (',' :: writeMembers members rest))

end

/-- The compact text of a value. -/
def render (value : Json) : String := String.ofList (value.write [])

end Json

end TrafficCapture
