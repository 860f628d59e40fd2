import TrafficCapture.Http.Token
import TrafficCapture.Text.Utf8

/-! Heads of requests and responses: their first line and their header fields. Lines end with a
line feed, which a carriage return may precede. -/

namespace TrafficCapture.Http

/-- A request head. -/
structure RequestHead where
  method : String
  target : String
  /-- The minor version of HTTP/1. -/
  minor : Nat
  headers : Headers
  deriving DecidableEq, Repr

/-- A response head. -/
structure ResponseHead where
  minor : Nat
  status : UInt16
  reason : String
  headers : Headers
  deriving DecidableEq, Repr

/-- The version as it is written. -/
def versionText (minor : Nat) : String := "HTTP/1." ++ toString minor

namespace Head

/-- Why bytes do not begin with a head. -/
inductive Fault where
  /-- More bytes may complete it. -/
  | incomplete
  | malformed
  | tooManyFields
  deriving DecidableEq, Repr

/-- Reads something at the front and returns what follows it. -/
abbrev Reader (α : Type) := Bytes → Except Fault (α × Bytes)

/-- Drops one line end. -/
def lineEnd : Bytes → Except Fault Bytes
  | 13 :: 10 :: rest => .ok rest
  | 10 :: rest => .ok rest
  | [] | [13] => .error .incomplete
  | _ => .error .malformed

/-- Drops the empty lines in front. -/
def skipEmptyLines : Bytes → Except Fault Bytes
  | 13 :: 10 :: rest => skipEmptyLines rest
  | 10 :: rest => skipEmptyLines rest
  | [] | [13] => .error .incomplete
  | 13 :: _ => .error .malformed
  | rest => .ok rest

/-- Drops one space. -/
def space : Bytes → Except Fault Bytes
  | 32 :: rest => .ok rest
  | [] => .error .incomplete
  | _ => .error .malformed

/-- Reads bytes up to one that ends them, which is dropped. There has to be at least one. -/
def word (allowed : UInt8 → Bool) (mark : UInt8) : Reader Bytes := fun bytes =>
  match bytes.span allowed with
  | (_, []) => .error .incomplete
  | ([], _) => .error .malformed
  | (front, b :: rest) => if b == mark then .ok (front, rest) else .error .malformed

/-- A byte that a request target may hold. -/
def isTargetByte (b : UInt8) : Bool := 0x21 ≤ b && b != 0x7F

/-- The versions that are understood, as they are written. -/
def versions : List (Nat × Bytes) :=
  [0, 1].map fun minor => (minor, Bytes.ofAscii (versionText minor))

/-- Reads a version and returns its minor number. -/
def version : Reader Nat := fun bytes =>
  match versions.find? fun v => v.2.isPrefixOf bytes with
  | some (minor, text) => .ok (minor, bytes.drop text.length)
  | none =>
    if versions.any fun v => bytes.isPrefixOf v.2 then .error .incomplete else .error .malformed

/-- A byte that a header value or a reason may hold. -/
def isValueByte (b : UInt8) : Bool := b == 9 || (0x20 ≤ b && b != 0x7F)

/-- A blank that may stand around a header value. -/
def isPadding (b : UInt8) : Bool := b == 32 || b == 9

/-- The value of a field behind the colon, without blanks at its ends. -/
def value : Reader Bytes := fun bytes =>
  match (bytes.dropWhile isPadding).span isValueByte with
  | (value, rest) =>
    (lineEnd rest).map fun rest => ((value.reverse.dropWhile isPadding).reverse, rest)

/-- Reads one field. -/
def field : Reader (String × String) := fun bytes => do
  let (name, rest) ← word isTokenByte 58 bytes
  let (value, rest) ← value rest
  return ((Text.Utf8.decodeLossy name, Text.Utf8.decodeLossy value), rest)

/-- Reads at most `room` fields and the empty line behind them. -/
def fields : (room : Nat) → Reader Headers
  | room, bytes =>
    match lineEnd bytes with
    | .ok rest => .ok ([], rest)
    | .error .incomplete => .error .incomplete
    | .error _ =>
      match field bytes, room with
      | .error fault, _ => .error fault
      | .ok _, 0 => .error .tooManyFields
      | .ok (first, rest), room + 1 =>
        (fields room rest).map fun (more, rest) => (first :: more, rest)

/-- Reads a request head of at most `room` fields. -/
def request (room : Nat) : Reader RequestHead := fun bytes => do
  let rest ← skipEmptyLines bytes
  let (method, rest) ← word isTokenByte 32 rest
  let (target, rest) ← word isTargetByte 32 rest
  match Text.Utf8.decode? target with
  | none => .error .malformed
  | some target =>
    let (minor, rest) ← version rest
    let rest ← lineEnd rest
    let (headers, rest) ← fields room rest
    return (⟨Text.Utf8.decodeLossy method, target, minor, headers⟩, rest)

/-- Reads a status code of three digits. -/
def code : Reader UInt16 := fun bytes =>
  match (bytes.take 3).span fun d => 48 ≤ d && d ≤ 57 with
  | ([a, b, c], _) =>
    .ok (UInt16.ofNat ((a.toNat - 48) * 100 + (b.toNat - 48) * 10 + (c.toNat - 48)), bytes.drop 3)
  | (_, []) => .error .incomplete
  | _ => .error .malformed

/-- Reads what follows the code. A reason with bytes beyond ASCII counts as empty. -/
def reason : Reader String := fun bytes =>
  match bytes with
  | 32 :: rest =>
    match rest.span isValueByte with
    | (reason, rest) =>
      (lineEnd rest).map fun rest =>
        (if reason.all (· < 0x80) then Text.Utf8.decodeLossy reason else "", rest)
  | _ => (lineEnd bytes).map fun rest => ("", rest)

/-- Reads a response head of at most `room` fields. -/
def response (room : Nat) : Reader ResponseHead := fun bytes => do
  let rest ← skipEmptyLines bytes
  let (minor, rest) ← version rest
  let rest ← space rest
  let (status, rest) ← code rest
  let (reason, rest) ← reason rest
  let (headers, rest) ← fields room rest
  return (⟨minor, status, reason, headers⟩, rest)

end Head

end TrafficCapture.Http
