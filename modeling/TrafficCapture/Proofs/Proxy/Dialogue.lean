import Mathlib.Data.Nat.Notation
import TrafficCapture.Proxy.Connection

/-! # Dialogues

What a connection does with its peers, one act after another: it reads from a peer, writes to one
or leaves one. It learns nothing but what these acts tell. Every step of a transfer is such a
dialogue. -/

namespace TrafficCapture.Proxy

open Net

/-- The two sides of a connection. -/
inductive Side where
  | client
  | server

def Side.other : Side → Side
  | client => server
  | server => client

/-- A client is told that there is no more to come before its connection is closed. -/
def Side.leave : Side → Peer → Peer
  | client, p => finish p
  | server, p => p.close

/-- The peers of one connection. Before a server is reached there is none to speak to. -/
structure Line where
  client : Peer
  server : Peer := {}

namespace Line

def peer (line : Line) : Side → Peer
  | .client => line.client
  | .server => line.server

def put (line : Line) (side : Side) (p : Peer) : Line :=
  match side with
  | .client => { line with client := p }
  | .server => { line with server := p }

end Line

/-- What a connection does next, and what it does then, according to what that tells it. -/
inductive Dialogue (α : Type) where
  | done (a : α)
  | read (side : Side) (size : ℕ) (clock : Clock) (next : Reading → Clock → Dialogue α)
  | write (side : Side) (bytes : Bytes) (next : Bool → Dialogue α)
  | leave (side : Side) (next : Dialogue α)

namespace Dialogue

variable {α β : Type}

/-- One act. -/
def step (d : Dialogue α) (line : Line) : Dialogue α × Line :=
  match d with
  | done a => (done a, line)
  | read side size clock next =>
    match (line.peer side).read size clock with
    | (reading, p, later) => (next reading later, line.put side p)
  | write side bytes next =>
    match (line.peer side).write bytes with
    | (taken, p) => (next taken, line.put side p)
  | leave side next => (next, line.put side (side.leave (line.peer side)))

/-- All acts, one right after another. -/
def play : Dialogue α → Line → α × Line
  | done a, line => (a, line)
  | read side size clock next, line =>
    match (line.peer side).read size clock with
    | (reading, p, later) => (next reading later).play (line.put side p)
  | write side bytes next, line =>
    match (line.peer side).write bytes with
    | (taken, p) => (next taken).play (line.put side p)
  | leave side next, line => next.play (line.put side (side.leave (line.peer side)))

/-- An act is the first of all that follow. -/
theorem play_step (d : Dialogue α) (line : Line) :
    (d.step line).1.play (d.step line).2 = d.play line := by
  cases d <;> rfl

def bind : Dialogue α → (α → Dialogue β) → Dialogue β
  | done a, f => f a
  | read side size clock next, f => read side size clock fun r c => (next r c).bind f
  | write side bytes next, f => write side bytes fun taken => (next taken).bind f
  | leave side next, f => leave side (next.bind f)

instance : Monad Dialogue where
  pure := done
  bind := bind

@[simp] theorem play_bind (d : Dialogue α) (f : α → Dialogue β) (line : Line) :
    (d >>= f).play line = (f (d.play line).1).play (d.play line).2 := by
  show (d.bind f).play line = _
  induction d generalizing line with
  | done a => rfl
  | read side size clock next ih => exact ih _ _ _
  | write side bytes next ih => exact ih _ _
  | leave side next ih => exact ih _

end Dialogue

/-! ## Transfers as dialogues -/

/-- What a transfer knows besides its peers. -/
structure Private where
  clock : Clock
  held : Bytes := []
  captured : Capture := {}

def Transfer.own (t : Transfer) : Private := ⟨t.clock, t.held, t.captured⟩

/-- The transfer with its own part replaced. -/
def Transfer.keeping (t : Transfer) (s : Private) : Transfer :=
  { t with clock := s.clock, held := s.held, captured := s.captured }

/-- The transfer from one side of a line to the other. -/
def Line.transfer (line : Line) (side : Side) (s : Private) : Transfer :=
  { source := line.peer side, sink := line.peer side.other, clock := s.clock, held := s.held
    captured := s.captured }

/-- The line as a transfer from one side has left it. -/
def Line.behind (line : Line) (side : Side) (t : Transfer) : Line :=
  (line.put side t.source).put side.other t.sink

section

variable {side : Side} {line : Line} {t t' : Transfer} {s : Private}

@[simp] theorem Line.transfer_behind : (line.behind side t).transfer side t.own = t := by
  cases side <;> rfl

@[simp] theorem Line.behind_behind : (line.behind side t).behind side t' = line.behind side t' := by
  cases side <;> rfl

theorem Line.behind_keeping (s' : Private) :
    line.behind side ((line.transfer side s).keeping s') = line := by
  cases side <;> rfl

end

/-- How a step of a transfer ended, and the transfer as it left it. -/
def ended {α : Type} : EStateM.Result Stop Transfer α → Except Stop α × Transfer
  | .ok a t => (.ok a, t)
  | .error s t => (.error s, t)

/-- A dialogue that does what a step of a transfer from one side to the other does. -/
structure Spoken {α : Type} (side : Side) (m : Move α) where
  dialogue : Private → Dialogue (Except Stop α × Private)
  play_eq : ∀ line s, (dialogue s).play line =
    (((ended (m (line.transfer side s))).1, (ended (m (line.transfer side s))).2.own),
      line.behind side (ended (m (line.transfer side s))).2)

namespace Spoken

variable {α β : Type} {side : Side} {m n : Move α}

/-- A step that touches no peer. -/
def ofOwn (f : Private → Except Stop α × Private)
    (h : ∀ t, ended (m t) = ((f t.own).1, t.keeping (f t.own).2)) : Spoken side m where
  dialogue s := pure (f s)
  play_eq line s := by
    rw [h, Line.behind_keeping]
    rfl

def pure (a : α) : Spoken side (Pure.pure a) := ofOwn (fun s => (.ok a, s)) fun _ => rfl

def stop (cause : Stop) : Spoken side (throw cause : Move α) :=
  ofOwn (fun s => (.error cause, s)) fun _ => rfl

/-- A step that looks at what the transfer knows by itself. -/
def look (f : Private → Move α) (spoken : ∀ s, Spoken side (f s)) (h : ∀ t, m t = f t.own t) :
    Spoken side m where
  dialogue s := (spoken s).dialogue s
  play_eq line s := by
    rw [h]
    exact (spoken s).play_eq line s

/-- One step after another, unless the first one stops. -/
def bind {f : α → Move β} (x : Spoken side m) (y : ∀ a, Spoken side (f a)) :
    Spoken side (m >>= f) where
  dialogue s := do
    match ← x.dialogue s with
    | (.ok a, s) => (y a).dialogue s
    | (.error cause, s) => return (.error cause, s)
  play_eq line s := by
    rw [Dialogue.play_bind, x.play_eq]
    have hbind : (m >>= f) (line.transfer side s) = EStateM.bind m f (line.transfer side s) := rfl
    rw [hbind, EStateM.bind]
    cases m (line.transfer side s) with
    | ok a t =>
        have hrest := (y a).play_eq (line.behind side t) t.own
        rw [Line.transfer_behind, Line.behind_behind] at hrest
        exact hrest
    | error cause t => rfl

def ite {c : Prop} [Decidable c] (x : Spoken side m) (y : Spoken side n) :
    Spoken side (if c then m else n) where
  dialogue s := if c then x.dialogue s else y.dialogue s
  play_eq line s := by
    split
    · exact x.play_eq line s
    · exact y.play_eq line s

/-! ### Reading and writing -/

def next (size : ℕ) : Spoken side (Move.next size) where
  dialogue s := .read side size s.clock fun reading clock => return (.ok reading, { s with clock })
  play_eq line s := by cases side <;> rfl

def put (bytes : Bytes) : Spoken side (Move.put bytes) where
  dialogue s := .write side.other bytes fun taken =>
    return (if taken then .ok () else .error (.failed .writeFailed), s)
  play_eq line s := by
    have hput : Move.put bytes (line.transfer side s) =
        match (line.peer side.other).write bytes with
        | (true, sink) => .ok () { line.transfer side s with sink }
        | (false, sink) => .error (.failed .writeFailed) { line.transfer side s with sink } := rfl
    rw [hput, Dialogue.play]
    obtain ⟨taken, sink⟩ := (line.peer side.other).write bytes
    cases taken <;> cases side <;> rfl

def keep (bytes : Bytes) : Spoken side (Move.keep bytes) :=
  ofOwn (fun s => (.ok (), { s with captured := s.captured.push bytes })) fun _ => rfl

def pass (bytes : Bytes) : Spoken side (Move.pass bytes) :=
  bind (put bytes) fun _ => keep bytes

def takeHeld (n : ℕ) : Spoken side (Move.takeHeld n) :=
  ofOwn (fun s => (.ok (s.held.splitAt n).1, { s with held := (s.held.splitAt n).2 })) fun _ => rfl

def demand (onEnd : Fault) (onFailure : String → Fault) (size : ℕ) :
    Spoken side (Move.demand onEnd onFailure size) :=
  bind (next size) fun
    | .bytes bytes => pure bytes
    | .ended => stop (.failed onEnd)
    | .failed reason => stop (.failed (onFailure reason))
    | .never => stop .waiting

def hold (bytes : Bytes) : Spoken side (Move.hold bytes) :=
  ofOwn (fun s => (.ok (), { s with held := s.held ++ bytes })) fun _ => rfl

def fill : Spoken side Move.fill :=
  bind (demand .chunksCut .readFailed Move.lineRead) hold

/-! ### Lines, pairs and data -/

/-- What is held back is replaced. -/
def swap (held : Bytes) (a : α) : Spoken side (fun t => .ok a { t with held }) :=
  ofOwn (fun s => (.ok a, { s with held })) fun _ => rfl

def heldLine? : Spoken side Move.heldLine? :=
  look
    (fun s => match Bytes.cutAfter? Bytes.crlf s.held with
      | some (line, held) => fun t => .ok (some line) { t with held }
      | none => if Move.lineLimit < s.held.length then Move.fail .lineTooLong else return none)
    (fun s => match Bytes.cutAfter? Bytes.crlf s.held with
      | some (line, held) => swap held (some line)
      | none => ite (stop (.failed .lineTooLong)) (pure none))
    fun t => by
      have hown : t.own.held = t.held := rfl
      have hget : Move.heldLine? t = (match Bytes.cutAfter? Bytes.crlf t.held with
        | some (line, held) => do
          set { t with held }
          return some line
        | none => if Move.lineLimit < t.held.length then Move.fail .lineTooLong
            else return none : Move (Option Bytes)) t := rfl
      rw [hget, hown]
      cases Bytes.cutAfter? Bytes.crlf t.held <;> rfl

def lineWithin : (tries : ℕ) → Spoken side (Move.lineWithin tries)
  | 0 => stop .waiting
  | tries + 1 => bind heldLine? fun
    | some line => pure line
    | none => bind fill fun _ => lineWithin tries

def line : Spoken side Move.line := lineWithin _

def pairWithin : (tries : ℕ) → Spoken side (Move.pairWithin tries)
  | 0 => stop .waiting
  | tries + 1 =>
    look
      (fun s => match s.held with
        | a :: b :: held => fun t => .ok [a, b] { t with held }
        | _ => Move.fill >>= fun _ => Move.pairWithin tries)
      (fun s => match s.held with
        | a :: b :: held => swap held [a, b]
        | [] => bind fill fun _ => pairWithin tries
        | [_] => bind fill fun _ => pairWithin tries)
      fun t => by
        have hown : t.own.held = t.held := rfl
        have hget : Move.pairWithin (tries + 1) t = (match t.held with
          | a :: b :: held => do
            set { t with held }
            return [a, b]
          | _ => do
            Move.fill
            Move.pairWithin tries : Move Bytes) t := rfl
        rw [hget, hown]
        match t.held with
        | [] => rfl
        | [_] => rfl
        | _ :: _ :: _ => rfl

def pair : Spoken side Move.pair := pairWithin 3

def stream (onEnd : Fault) (onFailure : String → Fault) :
    (reads n : ℕ) → Spoken side (Move.stream onEnd onFailure reads n)
  | 0, 0 => pure ()
  | _ + 1, 0 => pure ()
  | 0, _ + 1 => stop .waiting
  | reads + 1, n + 1 =>
    bind (demand onEnd onFailure (min Move.dataRead (n + 1))) fun bytes =>
      bind (pass bytes) fun _ => stream onEnd onFailure reads (n + 1 - bytes.length)

def passHeld (n : ℕ) : Spoken side (Move.passHeld n) :=
  bind (takeHeld n) fun front => ite (pure 0) (bind (pass front) fun _ => pure front.length)

def data (onEnd : Fault) (onFailure : String → Fault) (n : ℕ) :
    Spoken side (Move.data onEnd onFailure n) :=
  bind (passHeld n) fun moved => stream onEnd onFailure n (n - moved)

def untilEnd : (reads total : ℕ) → Spoken side (Move.untilEnd reads total)
  | 0, _ => stop .waiting
  | reads + 1, total => bind (next Move.dataRead) fun
    | .bytes bytes => bind (pass bytes) fun _ => untilEnd reads (total + bytes.length)
    | .ended => pure total
    | .failed reason => stop (.failed (.readFailed reason))
    | .never => stop .waiting

/-! ### Chunks -/

def moveLine : Spoken side Move.moveLine :=
  bind line fun l => bind (put l) fun _ => pure l

def trailers : (lines : ℕ) → Spoken side (Move.trailers lines)
  | 0 => stop .waiting
  | lines + 1 => bind moveLine fun _ => ite (pure ()) (trailers lines)

def within : (limit : Option ℕ) → (total : ℕ) → Spoken side (Move.within limit total)
  | none, _ => pure ()
  | some limit, _ => ite (stop (.failed (.tooLarge limit))) (pure ())

def chunkEnd : Spoken side Move.chunkEnd :=
  bind pair fun terminator => ite (put terminator) (stop (.failed .badTerminator))

def chunkData (size : ℕ) : Spoken side (Move.chunkData size) :=
  bind (data .chunksCut .readFailed size) fun _ => chunkEnd

def chunks (limit : Option ℕ) : (count total : ℕ) → Spoken side (Move.chunks limit count total)
  | 0, _ => stop .waiting
  | count + 1, total => bind moveLine fun l =>
    match Move.chunkSize l with
    | .error fault => stop (.failed fault)
    | .ok 0 => bind (trailers (count + 1)) fun _ => pure total
    | .ok (size + 1) => bind (within limit (total + (size + 1))) fun _ =>
      bind (chunkData (size + 1)) fun _ => chunks limit count (total + (size + 1))

end Spoken

end TrafficCapture.Proxy
