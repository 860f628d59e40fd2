import TrafficCapture.Text.Ascii

/-! Tokens, and what they name: the methods of requests, and the header fields of a message. -/

namespace TrafficCapture.Http

/-- A byte that a token may hold. -/
def isTokenByte (b : UInt8) : Bool :=
  let c := Char.ofNat b.toNat
  c.isAlphanum || "!#$%&'*+-.^_|~".toList.contains c || b == 0x60

def isToken (bytes : List UInt8) : Bool := !bytes.isEmpty && bytes.all isTokenByte

/-! ### Methods -/

inductive Method where
  | get
  | post
  | put
  | patch
  | delete
  | head
  | options
  | connect
  | trace
  deriving DecidableEq, Repr, Inhabited

namespace Method

def all : List Method := [.get, .post, .put, .patch, .delete, .head, .options, .connect, .trace]

/-- The method as it is written in a request line. -/
def token : Method → String
  | get => "GET"
  | post => "POST"
  | put => "PUT"
  | patch => "PATCH"
  | delete => "DELETE"
  | head => "HEAD"
  | options => "OPTIONS"
  | connect => "CONNECT"
  | trace => "TRACE"

/-- The method a token names, in any mixture of cases; every unknown token counts as `get`. -/
def ofToken (text : String) : Method :=
  let upper := text.toList.flatMap Text.upperToAscii
  (all.find? fun m => m.token.toList == upper).getD .get

end Method

/-! ### Header fields -/

/-- Names with their values; a name may occur more than once. -/
abbrev Headers := List (String × String)

/-- The value of the first field of that name, without regard to case. -/
def Headers.value? (headers : Headers) (name : String) : Option String :=
  (headers.find? fun field => Text.equalIgnoringCase field.1 name).map (·.2)

end TrafficCapture.Http
