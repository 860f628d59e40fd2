import TrafficCapture.Control.RequestBody
import TrafficCapture.Http.Head
import TrafficCapture.Http.Target
import TrafficCapture.Text.Numeral
import TrafficCapture.Text.Search

/-! What the head of a request to the control interface says about the request: how its body is
framed, and whether the connection goes on behind it. -/

namespace TrafficCapture.Control

/-- Why a request is answered without being looked at. -/
inductive Rejection where
  | badRequest
  | targetTooLong
  | headTooLarge
  deriving DecidableEq, Repr

def Rejection.status : Rejection → Nat
  | .badRequest => 400
  | .targetTooLong => 414
  | .headTooLarge => 431

/-- A request as its head tells of it. -/
structure Incoming where
  method : String
  target : Http.Target
  minor : Nat
  /-- Whether the client wants the connection to go on. -/
  persists : Bool
  body : Option BodyState
  /-- Whether the client asks before it sends the body. -/
  asks : Bool
  /-- Whether the client wants the connection for another purpose. -/
  upgrade : Bool
  deriving DecidableEq, Repr

namespace Incoming

/-- The most header fields that a head may have. -/
def fieldLimit : Nat := 100

/-- The members of a list with commas, if the text is plain ASCII. -/
def members (value : String) : List String :=
  if value.toList.all fun c => c == '\t' || (' ' ≤ c && c ≤ '~') then
    (Text.fields ',' value.toList).map fun cs => String.ofList (Text.trim cs)
  else []

def lists (value member : String) : Bool :=
  (members value).any fun m => Text.equalIgnoringCase m member

/-- A length of digits alone. -/
def length? (value : String) : Option Nat :=
  if value.toList.all Char.isDigit then
    (Text.readUnsigned 10 0xFFFFFFFFFFFFFFFF value.toList).toOption
  else none

/-- What the fields say so far. -/
structure Fields where
  minor : Nat
  persists : Bool
  length : Option Nat := none
  coded : Bool := false
  chunked : Bool := false
  asks : Bool := false
  upgrade : Bool

/-- Takes note of one field. -/
def Fields.add (f : Fields) (field : String × String) : Except Rejection Fields :=
  let (name, value) := field
  let isNamed := Text.equalIgnoringCase name
  if isNamed "transfer-encoding" then
    if f.minor == 0 then .error .badRequest
    else
      .ok { f with
        coded := true
        chunked := (members value).getLast?.any fun m => Text.equalIgnoringCase m "chunked" }
  else if isNamed "content-length" then
    if f.coded then .ok f
    else
      match length? value, f.length with
      | none, _ => .error .badRequest
      | some n, some before => if n == before then .ok f else .error .badRequest
      | some n, none =>
        if 0xFFFFFFFFFFFFFFFD < n then .error .headTooLarge else .ok { f with length := some n }
  else if isNamed "connection" then
    .ok { f with persists := if f.persists then !lists value "close" else lists value "keep-alive" }
  else if isNamed "expect" then .ok { f with asks := Text.equalIgnoringCase value "100-continue" }
  else if isNamed "upgrade" then .ok { f with upgrade := f.minor == 1 }
  else .ok f

/-- Understands a head. -/
def ofHead (head : Http.RequestHead) : Except Rejection Incoming := do
  if Http.Target.lengthLimit < head.target.utf8ByteSize then throw .targetTooLong
  if head.headers.any fun field => 65536 ≤ field.1.utf8ByteSize then throw .headTooLarge
  match Http.Target.parse? head.target with
  | none => throw .badRequest
  | some target =>
    let start : Fields :=
      { minor := head.minor, persists := head.minor == 1, upgrade := head.method == "CONNECT" }
    let f ← head.headers.foldlM Fields.add start
    if f.coded && !f.chunked then throw .badRequest
    let body :=
      if f.chunked then some ⟨.sizeStart, 0⟩
      else (f.length.filter (· != 0)).map fun n => ⟨.fixed n, 0⟩
    return ⟨head.method, target, head.minor, f.persists, body, f.asks && head.minor == 1, f.upgrade⟩

end Incoming

end TrafficCapture.Control
