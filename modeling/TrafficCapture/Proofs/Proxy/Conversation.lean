import TrafficCapture.Proofs.Proxy.Bound
import TrafficCapture.Proofs.Proxy.Head
import TrafficCapture.Proxy.Service

/-! # Conversations

The two parts of a connection as dialogues: up to the request that is to be forwarded, and from
there to what is recorded. Played in one go, they come to what the connection comes to. -/

namespace TrafficCapture.Proxy

open Net List

section

variable {line : Line} {side : Side} {p p' : Peer}

@[simp] theorem Line.put_peer : line.put side (line.peer side) = line := by
  cases side <;> rfl

@[simp] theorem Line.peer_put : (line.put side p).peer side = p := by
  cases side <;> rfl

@[simp] theorem Line.put_put : (line.put side p).put side p' = line.put side p' := by
  cases side <;> rfl

end

namespace Dialogue

/-! ## Heads -/

def headWithin (side : Side) :
    (reads : ℕ) → Bytes → Clock → Dialogue (Except HeadFault (Bytes × Bytes) × Clock)
  | 0, _, clock => done (.error .waiting, clock)
  | reads + 1, held, clock => .read side headRead clock fun reading clock =>
    match reading with
    | .bytes more =>
      match Bytes.cutAfter? Bytes.headEnd (held ++ more) with
      | some cut => done (.ok cut, clock)
      | none =>
        if headLimit < (held ++ more).length then done (.error .tooLong, clock)
        else headWithin side reads (held ++ more) clock
    | .ended => done (.error .failed, clock)
    | .failed _ => done (.error .failed, clock)
    | .never => done (.error .waiting, clock)

def head (side : Side) (clock : Clock) : Dialogue (Except HeadFault (Bytes × Bytes) × Clock) :=
  headWithin side (headLimit + 1) [] clock

theorem play_headWithin (side : Side) (reads : ℕ) (held : Bytes) (clock : Clock) (line : Line) :
    (headWithin side reads held clock).play line =
      (((readHeadWithin reads held (line.peer side) clock).1,
        (readHeadWithin reads held (line.peer side) clock).2.2),
        line.put side (readHeadWithin reads held (line.peer side) clock).2.1) := by
  induction reads generalizing held clock line with
  | zero => simp [headWithin, readHeadWithin, play]
  | succ reads ih =>
      rw [headWithin, readHeadWithin, play]
      rcases (line.peer side).read headRead clock with ⟨reading, p, later⟩
      cases reading with
      | bytes more =>
          simp only
          cases Bytes.cutAfter? Bytes.headEnd (held ++ more) with
          | some cut => rfl
          | none =>
              simp only
              split
              · rfl
              · rw [ih, Line.peer_put, Line.put_put]
      | ended => rfl
      | failed reason => rfl
      | never => rfl

theorem play_head (side : Side) (clock : Clock) (line : Line) :
    (head side clock).play line =
      (((readHead (line.peer side) clock).1, (readHead (line.peer side) clock).2.2),
        line.put side (readHead (line.peer side) clock).2.1) :=
  play_headWithin side _ _ clock line

end Dialogue

/-! ## Up to the request -/

/-- A request that is to be forwarded, and what arrived behind its head. -/
structure Arrival where
  request : Request
  held : Bytes
  clock : Clock

namespace Dialogue

def refuse (refusal : Refusal) (clock : Clock) : Dialogue (Except Clock Arrival) :=
  .write .client refusal.reply.bytes fun _ => done (.error clock)

/-- Hears a client out, who is answered if the request is refused. -/
def arrive (clock : Clock) : Dialogue (Except Clock Arrival) := do
  match ← head .client (clock.limitedTo (clock.now + headPatience)) with
  | (.error .waiting, woken) =>
    return .error (woken.after (clock.now + headPatience - woken.now))
  | (.error _, woken) => refuse .unreadable woken
  | (.ok (head, held), woken) =>
    match Http.Head.request fieldLimit head with
    | .error _ => refuse .unreadable woken
    | .ok (head, _) =>
      match Request.ofHead head with
      | .error refusal => refuse refusal woken
      | .ok request => return .ok ⟨request, held, { woken with horizon := clock.horizon }⟩

end Dialogue

/-- What a connection has come to when its client was heard out. -/
def arrived : Except Clock Arrival × Line → Opening
  | (.error clock, line) => .over (finish line.client) clock
  | (.ok a, line) => .wanted a.request a.held line.client a.clock

theorem arrived_arrive (clock : Clock) (line : Line) :
    arrived ((Dialogue.arrive clock).play line) = opening line.client clock ∧
      ((Dialogue.arrive clock).play line).2.server = line.server := by
  rw [Dialogue.arrive, Dialogue.play_bind, Dialogue.play_head, opening]
  show arrived (Dialogue.play _ (line.put .client
    (readHead line.client (clock.limitedTo (clock.now + headPatience))).2.1)) = _ ∧ _
  simp only [Line.peer]
  rcases readHead line.client (clock.limitedTo (clock.now + headPatience)) with
    ⟨read, client, woken⟩
  rcases read with fault | ⟨raw, held⟩
  · cases fault <;> exact ⟨rfl, rfl⟩
  · simp only
    rcases Http.Head.request fieldLimit raw with fault | ⟨head, rest⟩
    · exact ⟨rfl, rfl⟩
    · simp only
      rcases Request.ofHead head with refusal | request
      · exact ⟨rfl, rfl⟩
      · exact ⟨rfl, rfl⟩

/-! ## From the request to the record -/

/-- What an exchange has come to. -/
inductive Upshot where
  | waiting (clock : Clock)
  | ended (record : Option Exchange) (clock : Clock)

/-- What a transfer is without its peers. -/
def Private.transfer (s : Private) : Transfer :=
  { source := {}, sink := {}, clock := s.clock, held := s.held, captured := s.captured }

namespace Dialogue

def giveUp (b : Breakdown) (start : ℕ) (e : Exchange) (clock : Clock) : Dialogue Upshot :=
  .write .client b.reply.bytes fun taken =>
    let record := e.fail b.reply.status b.reason b.note
    let record := { record with timing := { record.timing with total := some (clock.since start) } }
    done (.ended (if taken then some record else none) clock)

def relay (tries : ℕ) (request : Request) (start : ℕ) (e : Exchange) (head : Http.ResponseHead)
    (held : Bytes) (clock : Clock) : Dialogue Upshot := do
  let framing := Framing.ofResponse (request.method == .head) head.status head.headers
  let spoken : Spoken .server _ := .sendWithin tries (responseHeadBytes head) none framing
  match ← spoken.dialogue ⟨clock, held, {}⟩ with
  | (.error .waiting, s) => return .waiting s.clock
  | (.error (.failed fault), s) =>
    return .ended (some ((Closing.answered start e head clock s.transfer).fail 502
      "Failed to relay response" ("Response body relay failed: " ++ fault.message))) s.clock
  | (.ok size, s) =>
    return .ended (some { Closing.answered start e head clock s.transfer with
      responseSize := some (UInt64.ofNat size) }) s.clock

def respond (tries : ℕ) (request : Request) (start : ℕ) (e : Exchange) (clock : Clock) :
    Dialogue Upshot := do
  match ← head .server clock with
  | (.error .waiting, later) => return .waiting later
  | (.error _, later) => giveUp .noResponse start e later
  | (.ok (raw, held), later) =>
    match Http.Head.response fieldLimit raw with
    | .error _ => giveUp .noResponse start e later
    | .ok (head, _) =>
      let e := { e with timing := { e.timing with wait := some (later.since clock.now) } }
      relay tries request start e head held later

def forward (tries : ℕ) (request : Request) (start : ℕ) (e : Exchange) (held : Bytes)
    (clock : Clock) : Dialogue Upshot := do
  let spoken : Spoken .client _ :=
    .sendWithin tries request.headBytes (some requestBodyLimit) request.framing
  match ← spoken.dialogue ⟨clock, held, {}⟩ with
  | (.error .waiting, s) => return .waiting s.clock
  | (.error (.failed fault), s) =>
    giveUp (Breakdown.ofFault fault) start { e with requestBody := s.captured.body? } s.clock
  | (.ok _, s) =>
    let e := { e with
      requestBody := s.captured.body?
      timing := { e.timing with send := some (s.clock.since clock.now) } }
    respond tries request start e s.clock

/-- Goes on from a request, with the delay of its server if one was found. -/
def conclude (tries : ℕ) (stamp : Stamp) (a : Arrival) (delay? : Option ℕ) : Dialogue Upshot :=
  let e := { a.request.exchange with
    id := stamp.id
    timing := { startedAt := stamp.acceptedAt + Int64.ofNat a.clock.now } }
  match delay? with
  | none => giveUp .unreachable 0 e a.clock
  | some delay =>
    if a.clock.allows delay then forward tries a.request 0 e a.held (a.clock.after delay)
    else done (.waiting a.clock)

end Dialogue

/-- How a connection is left once it has come to something. -/
def concluded (reached : Bool) : Upshot × Line → Closing
  | (.waiting clock, line) => .waiting line.client line.server clock
  | (.ended record clock, line) =>
    ⟨finish line.client, if reached then some line.server.close else none, record, clock⟩

section

variable {tries : ℕ} {request : Request} {start : ℕ} {e : Exchange} {held : Bytes} {clock : Clock}
  {line : Line}

theorem concluded_giveUp (reached : Bool) (b : Breakdown) :
    concluded reached ((Dialogue.giveUp b start e clock).play line) =
      Closing.breakdown b start e line.client (if reached then some line.server else none)
        clock := by
  rw [Dialogue.giveUp, Dialogue.play, Closing.breakdown]
  show concluded reached (Dialogue.play _ (line.put .client (line.client.write b.reply.bytes).2)) = _
  cases reached <;> rfl

theorem concluded_relay (head : Http.ResponseHead)
    (h : (held ++ (delivery line.server.script).bytes).length < tries) :
    concluded true ((Dialogue.relay tries request start e head held clock).play line) =
      Closing.relay request start e head held line.client line.server clock := by
  let framing := Framing.ofResponse (request.method == .head) head.status head.headers
  have hstart : ({ source := line.server, sink := line.client, clock, held } : Transfer) =
      line.transfer .server ⟨clock, held, {}⟩ := rfl
  have hsend : Move.sendWithin tries (responseHeadBytes head) none framing
      (line.transfer .server ⟨clock, held, {}⟩) =
        Move.response head framing (line.transfer .server ⟨clock, held, {}⟩) :=
    Move.sendWithin_eq _ _ _ _ h
  rw [Dialogue.relay, Dialogue.play_bind, Spoken.play_eq, hsend, Closing.relay, hstart]
  simp only
  cases Move.response head framing (line.transfer .server ⟨clock, held, {}⟩) with
  | ok size t => rfl
  | error cause t => cases cause <;> rfl

theorem concluded_respond (line : Line)
    (h : (delivery line.server.script).bytes.length < tries) :
    concluded true ((Dialogue.respond tries request start e clock).play line) =
      Closing.respond request start e line.client line.server clock := by
  have hplay := Dialogue.play_head .server clock line
  rw [Dialogue.respond, Dialogue.play_bind, hplay, Closing.respond]
  show concluded true (Dialogue.play _ (line.put .server (readHead line.server clock).2.1)) = _
  simp only [Line.peer]
  rcases hread : readHead line.server clock with ⟨fault | ⟨raw, held⟩, server, later⟩
  · cases fault with
    | waiting => rfl
    | failed => exact concluded_giveUp true .noResponse
    | tooLong => exact concluded_giveUp true .noResponse
  · simp only
    rcases Http.Head.response fieldLimit raw with fault | ⟨head, rest⟩
    · exact concluded_giveUp true .noResponse
    · have hbytes := congrArg Delivery.bytes (delivery_of_readHead hread)
      rw [hbytes, Delivery.behind_bytes, append_assoc, length_append] at h
      exact concluded_relay head (Nat.lt_of_le_of_lt (Nat.le_add_left _ _) h)

theorem concluded_forward (hclient : (held ++ (delivery line.client.script).bytes).length < tries)
    (hserver : (delivery line.server.script).bytes.length < tries) :
    concluded true ((Dialogue.forward tries request start e held clock).play line) =
      Closing.ofRequest request start e held line.client clock (some line.server) := by
  have hstart : ({ source := line.client, sink := line.server, clock, held } : Transfer) =
      line.transfer .client ⟨clock, held, {}⟩ := rfl
  have hsend : Move.sendWithin tries request.headBytes (some requestBodyLimit) request.framing
      (line.transfer .client ⟨clock, held, {}⟩) =
        Move.request request (line.transfer .client ⟨clock, held, {}⟩) :=
    Move.sendWithin_eq _ _ _ _ hclient
  have heffect := Move.send_effect request.headBytes (some requestBodyLimit) request.framing
    (line.transfer .client ⟨clock, held, {}⟩)
  rw [Dialogue.forward, Dialogue.play_bind, Spoken.play_eq, hsend, Closing.ofRequest, hstart]
  simp only
  cases hsent : Move.request request (line.transfer .client ⟨clock, held, {}⟩) with
  | ok size t =>
      -- the server was only written to
      obtain ⟨written, data, he⟩ := heffect.of_ok hsent
      have hscript : t.sink.script = line.server.script := by rw [he.sink]; rfl
      exact concluded_respond ⟨t.source, t.sink⟩ (by rw [hscript]; exact hserver)
  | error cause t =>
      cases cause with
      | failed fault => exact concluded_giveUp true _
      | waiting => rfl

/-- An exchange comes to the same played with a server or without one. -/
theorem concluded_conclude (stamp : Stamp) (a : Arrival) (found : Option ℕ) (us : List Server)
    (reached : Option Server) (line : Line) (hreached : found.bind (us[·]?) = reached)
    (hpeer : ∀ u ∈ reached, line.server = u.peer)
    (hclient : (a.held ++ (delivery line.client.script).bytes).length < tries)
    (hserver : (delivery line.server.script).bytes.length < tries) :
    concluded reached.isSome
        ((Dialogue.conclude tries stamp a (reached.map Server.delay)).play line) =
      Passage.conclude stamp us (.under a.request a.held line.client a.clock found) := by
  unfold Passage.conclude Dialogue.conclude
  simp only [hreached]
  cases reached with
  | none => exact concluded_giveUp false .unreachable
  | some u =>
      have hu := hpeer u rfl
      simp only [Option.map_some]
      split
      · rw [← hu]
        exact concluded_forward hclient hserver
      · rw [← hu]
        rfl

end

end TrafficCapture.Proxy
