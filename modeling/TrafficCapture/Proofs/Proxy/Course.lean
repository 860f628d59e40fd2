import TrafficCapture.Proofs.Proxy.Dialogue

/-! # Courses

What a transfer does, act by act. A course lists the acts of a step, from whatever transfer it
begins with, so that all transfers that the step passes through are there to be looked at. Performed
one after another, the acts lead where the step leads. -/

namespace TrafficCapture.Proxy

open Net List

/-- What a transfer does at once. -/
inductive Act where
  | read (size : ℕ)
  | write (bytes : Bytes)
  | keep (bytes : Bytes)
  /-- Bytes are put behind those held back. -/
  | hold (bytes : Bytes)
  /-- So many of the bytes held back are taken from the front. -/
  | take (n : ℕ)

/-- The transfer that an act leaves behind. -/
def Act.perform (t : Transfer) : Act → Transfer
  | read size =>
    match t.source.read size t.clock with
    | (_, source, clock) => { t with source, clock }
  | write bytes => { t with sink := (t.sink.write bytes).2 }
  | keep bytes => { t with captured := t.captured.push bytes }
  | hold bytes => { t with held := t.held ++ bytes }
  | take n => { t with held := t.held.drop n }

/-- The transfers before, between and behind acts. -/
def passedThrough (t : Transfer) (acts : List Act) : List Transfer := acts.scanl Act.perform t

@[simp] theorem passedThrough_nil (t : Transfer) : passedThrough t [] = [t] := rfl

@[simp] theorem passedThrough_cons (t : Transfer) (a : Act) (acts : List Act) :
    passedThrough t (a :: acts) = t :: passedThrough (a.perform t) acts := by
  simp [passedThrough]

theorem mem_passedThrough_append {t u : Transfer} {acts more : List Act} :
    u ∈ passedThrough t (acts ++ more) ↔
      u ∈ passedThrough t acts ∨ u ∈ passedThrough (acts.foldl Act.perform t) more := by
  induction acts generalizing t with
  | nil =>
      have hfirst : t ∈ passedThrough t more := by
        cases more <;> simp
      simp only [nil_append, passedThrough_nil, mem_singleton, foldl_nil]
      refine ⟨Or.inr, fun h => h.elim ?_ id⟩
      rintro rfl
      exact hfirst
  | cons a acts ih => simp [ih, or_assoc]

/-- The acts of a step of a transfer. -/
structure Course {α : Type} (m : Move α) where
  acts : Transfer → List Act
  foldl_acts : ∀ t, (acts t).foldl Act.perform t = (ended (m t)).2

namespace Course

variable {α β : Type} {m n : Move α}

/-- The transfers that a step passes through. -/
def states (c : Course m) (t : Transfer) : List Transfer := passedThrough t (c.acts t)

/-- A step that does one thing. -/
def one (a : Act) (h : ∀ t, a.perform t = (ended (m t)).2) : Course m where
  acts _ := [a]
  foldl_acts := h

/-- A step that does nothing but to look at the transfer. -/
def idle (h : ∀ t, (ended (m t)).2 = t) : Course m where
  acts _ := []
  foldl_acts t := (h t).symm

def pure (a : α) : Course (Pure.pure a) := idle fun _ => rfl

def stop (cause : Stop) : Course (throw cause : Move α) := idle fun _ => rfl

/-- A step that depends on the transfer. -/
def look (f : Transfer → Move α) (course : ∀ t, Course (f t)) (h : ∀ t, m t = f t t) :
    Course m where
  acts t := (course t).acts t
  foldl_acts t := by
    rw [h]
    exact (course t).foldl_acts t

/-- One step after another, unless the first one stops. -/
def bind {f : α → Move β} (x : Course m) (y : ∀ a, Course (f a)) : Course (m >>= f) where
  acts t := x.acts t ++
    match m t with
    | .ok a t' => (y a).acts t'
    | .error .. => []
  foldl_acts t := by
    have hbind : (m >>= f) t = EStateM.bind m f t := rfl
    rw [hbind, EStateM.bind, foldl_append, x.foldl_acts]
    cases m t with
    | ok a t' => exact (y a).foldl_acts t'
    | error cause t' => rfl

def ite {c : Prop} [Decidable c] (x : Course m) (y : Course n) :
    Course (if c then m else n) where
  acts t := if c then x.acts t else y.acts t
  foldl_acts t := by
    split
    · exact x.foldl_acts t
    · exact y.foldl_acts t

/-! ## Reading and writing -/

def next (size : ℕ) : Course (Move.next size) := one (.read size) fun _ => rfl

def put (bytes : Bytes) : Course (Move.put bytes) := one (.write bytes) fun t => by
  rw [Act.perform, Move.put]
  obtain ⟨taken, sink⟩ := t.sink.write bytes
  cases taken <;> rfl

def keep (bytes : Bytes) : Course (Move.keep bytes) := one (.keep bytes) fun _ => rfl

def pass (bytes : Bytes) : Course (Move.pass bytes) := bind (put bytes) fun _ => keep bytes

def takeHeld (n : ℕ) : Course (Move.takeHeld n) := one (.take n) fun t => by
  rw [Act.perform, Move.takeHeld, splitAt_eq]
  rfl

def demand (onEnd : Fault) (onFailure : String → Fault) (size : ℕ) :
    Course (Move.demand onEnd onFailure size) :=
  bind (next size) fun
    | .bytes bytes => pure bytes
    | .ended => stop (.failed onEnd)
    | .failed reason => stop (.failed (onFailure reason))
    | .never => stop .waiting

def hold (bytes : Bytes) : Course (Move.hold bytes) := one (.hold bytes) fun _ => rfl

def fill : Course Move.fill := bind (demand .chunksCut .readFailed Move.lineRead) hold

/-! ## Lines, pairs and data -/

def heldLine? : Course Move.heldLine? :=
  look
    (fun t => match Bytes.cutAfter? Bytes.crlf t.held with
      | some (line, _) => fun t => .ok (some line) { t with held := t.held.drop line.length }
      | none => if Move.lineLimit < t.held.length then Move.fail .lineTooLong else return none)
    (fun t => match Bytes.cutAfter? Bytes.crlf t.held with
      | some (line, _) => one (.take line.length) fun _ => rfl
      | none => ite (stop (.failed .lineTooLong)) (pure none))
    fun t => by
      have hget : Move.heldLine? t = (match Bytes.cutAfter? Bytes.crlf t.held with
        | some (line, held) => do
          set { t with held }
          return some line
        | none => if Move.lineLimit < t.held.length then Move.fail .lineTooLong
            else return none : Move (Option Bytes)) t := rfl
      rw [hget]
      cases hcut : Bytes.cutAfter? Bytes.crlf t.held with
      | none => rfl
      | some cut =>
          have hheld : t.held.drop cut.1.length = cut.2 := by
            rw [← Bytes.append_of_cutAfter? hcut, drop_left]
          simp only [hheld]
          rfl

def lineWithin : (tries : ℕ) → Course (Move.lineWithin tries)
  | 0 => stop .waiting
  | tries + 1 => bind heldLine? fun
    | some line => pure line
    | none => bind fill fun _ => lineWithin tries

def line : Course Move.line := lineWithin _

def pairWithin : (tries : ℕ) → Course (Move.pairWithin tries)
  | 0 => stop .waiting
  | tries + 1 =>
    look
      (fun t => match t.held with
        | a :: b :: _ => fun t => .ok [a, b] { t with held := t.held.drop 2 }
        | _ => Move.fill >>= fun _ => Move.pairWithin tries)
      (fun t => match t.held with
        | _ :: _ :: _ => one (.take 2) fun _ => rfl
        | [] => bind fill fun _ => pairWithin tries
        | [_] => bind fill fun _ => pairWithin tries)
      fun t => by
        have hget : Move.pairWithin (tries + 1) t = (match t.held with
          | a :: b :: held => do
            set { t with held }
            return [a, b]
          | _ => do
            Move.fill
            Move.pairWithin tries : Move Bytes) t := rfl
        rw [hget]
        match hheld : t.held with
        | [] => rfl
        | [_] => rfl
        | a :: b :: held =>
            have hback : t.held.drop 2 = held := by simp [hheld]
            simp only [hback]
            rfl

def pair : Course Move.pair := pairWithin 3

def stream (onEnd : Fault) (onFailure : String → Fault) :
    (reads n : ℕ) → Course (Move.stream onEnd onFailure reads n)
  | 0, 0 => pure ()
  | _ + 1, 0 => pure ()
  | 0, _ + 1 => stop .waiting
  | reads + 1, n + 1 =>
    bind (demand onEnd onFailure (min Move.dataRead (n + 1))) fun bytes =>
      bind (pass bytes) fun _ => stream onEnd onFailure reads (n + 1 - bytes.length)

def passHeld (n : ℕ) : Course (Move.passHeld n) :=
  bind (takeHeld n) fun front => ite (pure 0) (bind (pass front) fun _ => pure front.length)

def data (onEnd : Fault) (onFailure : String → Fault) (n : ℕ) :
    Course (Move.data onEnd onFailure n) :=
  bind (passHeld n) fun moved => stream onEnd onFailure n (n - moved)

def untilEnd : (reads total : ℕ) → Course (Move.untilEnd reads total)
  | 0, _ => stop .waiting
  | reads + 1, total => bind (next Move.dataRead) fun
    | .bytes bytes => bind (pass bytes) fun _ => untilEnd reads (total + bytes.length)
    | .ended => pure total
    | .failed reason => stop (.failed (.readFailed reason))
    | .never => stop .waiting

/-! ## Chunks -/

def moveLine : Course Move.moveLine := bind line fun l => bind (put l) fun _ => pure l

def trailers : (lines : ℕ) → Course (Move.trailers lines)
  | 0 => stop .waiting
  | lines + 1 => bind moveLine fun _ => ite (pure ()) (trailers lines)

def within : (limit : Option ℕ) → (total : ℕ) → Course (Move.within limit total)
  | none, _ => pure ()
  | some limit, _ => ite (stop (.failed (.tooLarge limit))) (pure ())

def chunkEnd : Course Move.chunkEnd :=
  bind pair fun terminator => ite (put terminator) (stop (.failed .badTerminator))

def chunkData (size : ℕ) : Course (Move.chunkData size) :=
  bind (data .chunksCut .readFailed size) fun _ => chunkEnd

def chunks (limit : Option ℕ) : (count total : ℕ) → Course (Move.chunks limit count total)
  | 0, _ => stop .waiting
  | count + 1, total => bind moveLine fun l =>
    match Move.chunkSize l with
    | .error fault => stop (.failed fault)
    | .ok 0 => bind (trailers (count + 1)) fun _ => pure total
    | .ok (size + 1) => bind (within limit (total + (size + 1))) fun _ =>
      bind (chunkData (size + 1)) fun _ => chunks limit count (total + (size + 1))

/-! ## Bodies -/

def body (limit : Option ℕ) : (framing : Framing) → Course (Move.body limit framing)
  | .empty => pure 0
  | .fixed n => bind (data _ _ n) fun _ => pure n
  | .chunked => look (fun t => Move.chunks limit (Move.ahead t + 1) 0) (fun _ => chunks limit _ 0)
      fun _ => rfl
  | .untilClose =>
    look (fun t => Move.passHeld t.held.length >>= Move.untilEnd (arriving t.source.script + 1))
      (fun t => bind (passHeld t.held.length) (untilEnd _)) fun _ => rfl

def request (r : Request) : Course (Move.request r) :=
  bind (put r.headBytes) fun _ => body (some requestBodyLimit) r.framing

def response (head : Http.ResponseHead) (framing : Framing) : Course (Move.response head framing) :=
  bind (put (responseHeadBytes head)) fun _ => body none framing

end Course

end TrafficCapture.Proxy
