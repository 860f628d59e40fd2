import TrafficCapture.Http.Token
import TrafficCapture.Text.Numeral
import TrafficCapture.Text.Search

/-! How the end of a body is found. -/

namespace TrafficCapture.Proxy

/-- How a body ends. -/
inductive Framing where
  | empty
  | fixed (length : Nat)
  | chunked
  /-- The body ends with the stream. -/
  | untilClose
  deriving DecidableEq, Repr

namespace Framing

/-- Whether the first transfer coding field names chunks. -/
def isChunked (headers : Http.Headers) : Bool :=
  (headers.value? "transfer-encoding").any fun value =>
    Text.contains (Text.lowerAscii value) "chunked"

/-- Reads a length, which blanks may surround. -/
def readLength (value : String) : Except Text.NumeralError Nat :=
  Text.readUnsigned 10 0xFFFFFFFFFFFFFFFF (Text.trim value.toList)

/-- The framing of a request body, given the length that the request announces. -/
def ofRequest (length : Option Nat) (headers : Http.Headers) : Framing :=
  if isChunked headers then .chunked
  else
    match length with
    | some n => .fixed n
    | none => .empty

/-- Whether a response of that status never has a body. -/
def isBodiless (status : UInt16) : Bool :=
  (100 ≤ status && status < 200) || status == 204 || status == 304

/-- The framing of a response body. -/
def ofResponse (toHead : Bool) (status : UInt16) (headers : Http.Headers) : Framing :=
  if toHead || isBodiless status then .empty
  else if isChunked headers then .chunked
  else
    match headers.value? "content-length" with
    | none => .untilClose
    | some value =>
      match readLength value with
      | .ok n => .fixed n
      | .error _ => .untilClose

end Framing

end TrafficCapture.Proxy
