import TrafficCapture.Net.Peer
import TrafficCapture.Proxy.Capture
import TrafficCapture.Proxy.Framing
import TrafficCapture.Text.Utf8

/-! Moving a body from one peer to another. Bytes that were read but not yet moved are held back;
data goes on as it comes, a line only once it is whole. -/

namespace TrafficCapture.Proxy

open Net

/-- Why a body was not moved to its end. -/
inductive Fault where
  | readFailed (reason : String)
  | writeFailed
  /-- A body of known length could not be read. -/
  | bodyUnread
  /-- A body of known length ended early. -/
  | bodyCut
  /-- A chunked body ended early. -/
  | chunksCut
  | lineTooLong
  | badTerminator
  /-- The first line of a chunk is too short to have an end. -/
  | unendedLine
  | badSize (text : String)
  /-- The chunks announce more bytes than the limit. -/
  | tooLarge (limit : Nat)
  deriving DecidableEq, Repr

def Fault.message : Fault → String
  | .readFailed reason => reason
  | .writeFailed => "broken pipe"
  | .bodyUnread => "reading response body"
  | .bodyCut => "connection closed while reading response body"
  | .chunksCut => "connection closed while reading chunked body"
  | .lineTooLong => "chunk header line exceeds allowed size"
  | .badTerminator => "invalid chunk terminator"
  | .unendedLine => "invalid chunked encoding: missing CRLF"
  | .badSize text => "invalid chunk size: " ++ text
  | .tooLarge limit =>
    "request body exceeds configured limit of " ++ toString limit ++ " bytes"

/-- Why a transfer does not go on. -/
inductive Stop where
  | failed (fault : Fault)
  /-- It still waits for a peer. -/
  | waiting
  deriving DecidableEq, Repr

/-- A transfer under way. -/
structure Transfer where
  source : Peer
  sink : Peer
  clock : Clock
  /-- What was read but not yet moved. -/
  held : Bytes := []
  captured : Capture := {}
  deriving DecidableEq, Repr

/-- A step of a transfer. What it did before it stopped stays done. -/
abbrev Move := EStateM Stop Transfer

namespace Move

/-- The longest line that is waited for. -/
def lineLimit : Nat := 65536

/-- The largest read of lines. -/
def lineRead : Nat := 4096

/-- The largest read of data. -/
def dataRead : Nat := 8192

/-- Ends the transfer with a fault. -/
def fail {α : Type} (fault : Fault) : Move α := throw (.failed fault)

/-- Reads from the source. -/
def next (size : Nat) : Move Reading := fun t =>
  match t.source.read size t.clock with
  | (reading, source, clock) => .ok reading { t with source, clock }

/-- Writes to the sink. -/
def put (bytes : Bytes) : Move Unit := fun t =>
  match t.sink.write bytes with
  | (true, sink) => .ok () { t with sink }
  | (false, sink) => .error (.failed .writeFailed) { t with sink }

/-- Keeps data that was written. -/
def keep (bytes : Bytes) : Move Unit := modify fun t => { t with captured := t.captured.push bytes }

/-- Moves data. -/
def pass (bytes : Bytes) : Move Unit := do
  put bytes
  keep bytes

/-- Takes at most `n` of the bytes held back. -/
def takeHeld (n : Nat) : Move Bytes := fun t =>
  match t.held.splitAt n with
  | (front, back) => .ok front { t with held := back }

/-- Reads bytes, without which the transfer cannot go on. -/
def demand (onEnd : Fault) (onFailure : String → Fault) (size : Nat) : Move Bytes := do
  match ← next size with
  | .bytes bytes => return bytes
  | .ended => fail onEnd
  | .failed reason => fail (onFailure reason)
  | .never => throw .waiting

/-- Holds bytes back behind those that are. -/
def hold (bytes : Bytes) : Move Unit := modify fun t => { t with held := t.held ++ bytes }

/-- Reads more of a chunked body and holds it back. -/
def fill : Move Unit := do
  let bytes ← demand .chunksCut .readFailed lineRead
  hold bytes

/-- Takes a line with its end from what is held back, if it is whole. -/
def heldLine? : Move (Option Bytes) := do
  let t ← get
  match Bytes.cutAfter? Bytes.crlf t.held with
  | some (line, held) =>
    set { t with held }
    return some line
  | none => if lineLimit < t.held.length then fail .lineTooLong else return none

/-- The next line, tried so many times. -/
def lineWithin : (tries : Nat) → Move Bytes
  | 0 => throw .waiting
  | tries + 1 => do
    match ← heldLine? with
    | some line => return line
    | none =>
      fill
      lineWithin tries

/-- The next line with its end. Every read brings a byte, so that after as many reads as a line has
bytes it is whole or too long. -/
def line : Move Bytes := lineWithin (lineLimit + 2)

/-- The next two bytes, tried so many times. -/
def pairWithin : (tries : Nat) → Move Bytes
  | 0 => throw .waiting
  | tries + 1 => do
    let t ← get
    match t.held with
    | a :: b :: held =>
      set { t with held }
      return [a, b]
    | _ =>
      fill
      pairWithin tries

/-- The next two bytes. -/
def pair : Move Bytes := pairWithin 3

/-- Moves `n` bytes of data from the source. Every read brings at least one of them. -/
def stream (onEnd : Fault) (onFailure : String → Fault) : (reads n : Nat) → Move Unit
  | _, 0 => return
  | 0, _ + 1 => throw .waiting
  | reads + 1, n + 1 => do
    let bytes ← demand onEnd onFailure (min dataRead (n + 1))
    pass bytes
    stream onEnd onFailure reads (n + 1 - bytes.length)

/-- Moves as many as `n` of the bytes held back, if there are any, and says how many. -/
def passHeld (n : Nat) : Move Nat := do
  let front ← takeHeld n
  if front.isEmpty then return 0
  else
    pass front
    return front.length

/-- Moves `n` bytes of data, those held back first. -/
def data (onEnd : Fault) (onFailure : String → Fault) (n : Nat) : Move Unit := do
  let moved ← passHeld n
  stream onEnd onFailure n (n - moved)

/-- Moves what arrives until the stream ends, and adds up how much that is. -/
def untilEnd : (reads total : Nat) → Move Nat
  | 0, _ => throw .waiting
  | reads + 1, total => do
    match ← next dataRead with
    | .bytes bytes =>
      pass bytes
      untilEnd reads (total + bytes.length)
    | .ended => return total
    | .failed reason => fail (.readFailed reason)
    | .never => throw .waiting

/-- The size text of a chunk's first line: what stands before a semicolon, without blanks. -/
def sizeText (line : Bytes) : List Char :=
  match Text.Utf8.decodeChars? (line.take (line.length - 2)) with
  | none => []
  | some cs => Text.trim (Text.cutAt ';' cs).1

/-- The size that a chunk's first line announces. -/
def chunkSize (line : Bytes) : Except Fault Nat :=
  if line.length < 2 then .error .unendedLine
  else
    (Text.readUnsigned 16 0xFFFFFFFFFFFFFFFF (sizeText line)).mapError fun _ =>
      .badSize (String.ofList (sizeText line))

/-- Moves a line, which is returned too. -/
def moveLine : Move Bytes := do
  let line ← line
  put line
  return line

/-- Moves the lines behind the last chunk, of which an empty one is the last. -/
def trailers : (lines : Nat) → Move Unit
  | 0 => throw .waiting
  | lines + 1 => do
    let line ← moveLine
    if line == Bytes.crlf then return else trailers lines

/-- Goes on only as long as the limit, if there is one, is not exceeded. -/
def within (limit : Option Nat) (total : Nat) : Move Unit :=
  match limit with
  | none => return
  | some limit => if limit < total then fail (.tooLarge limit) else return

/-- Moves the line end behind a chunk. -/
def chunkEnd : Move Unit := do
  let terminator ← pair
  if terminator == Bytes.crlf then put terminator else fail .badTerminator

/-- Moves the data of a chunk and the line end behind it. -/
def chunkData (size : Nat) : Move Unit := do
  data .chunksCut .readFailed size
  chunkEnd

/-- Moves chunks verbatim and adds up their sizes, which must not exceed the limit. The first line
of a chunk is moved before it is understood. -/
def chunks (limit : Option Nat) : (count total : Nat) → Move Nat
  | 0, _ => throw .waiting
  | count + 1, total => do
    let line ← moveLine
    match chunkSize line with
    | .error fault => fail fault
    | .ok 0 =>
      trailers (count + 1)
      return total
    | .ok size =>
      within limit (total + size)
      chunkData size
      chunks limit count (total + size)

/-- How many bytes a transfer may come upon. -/
def ahead (t : Transfer) : Nat := t.held.length + arriving t.source.script

/-- Moves a body of the given framing and returns its length without the marks of chunks. -/
def body (limit : Option Nat) : Framing → Move Nat
  | .empty => return 0
  | .fixed n => do
    data .bodyCut (fun _ => .bodyUnread) n
    return n
  | .chunked => do
    let t ← get
    chunks limit (ahead t + 1) 0
  | .untilClose => do
    let t ← get
    let moved ← passHeld t.held.length
    untilEnd (arriving t.source.script + 1) moved

end Move

end TrafficCapture.Proxy
