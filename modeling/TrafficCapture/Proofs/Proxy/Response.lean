import TrafficCapture.Proofs.Proxy.Body
import TrafficCapture.Proofs.Proxy.Head
import TrafficCapture.Proofs.Text.Search
import TrafficCapture.Proxy.Service

/-! # Responses

The framing of a response follows from the request and the head of the response. What the client
receives and what is recorded follow from the framing and from what the server delivers behind that
head, however it is cut. -/

namespace TrafficCapture

open List

namespace Proxy

open Net

/-! ## The choice of a framing -/

/-- A response that never has a body. -/
def Bodiless (toHead : Prop) (status : UInt16) : Prop :=
  toHead ∨ (100 ≤ status ∧ status < 200) ∨ status = 204 ∨ status = 304

/-- The first transfer coding field names chunks, in letters of any case. -/
def NamesChunks (headers : Http.Headers) : Prop :=
  ∃ value, headers.value? "transfer-encoding" = some value ∧
    "chunked".toList <:+: (Text.lowerAscii value).toList

/-- The first length field announces the length. -/
def Announces (headers : Http.Headers) (n : ℕ) : Prop :=
  ∃ value, headers.value? "content-length" = some value ∧ Framing.readLength value = .ok n

/-- The framing of a response body. -/
inductive Framing.OfResponse (toHead : Prop) (status : UInt16) (headers : Http.Headers) :
    Framing → Prop where
  | empty (h : Bodiless toHead status) : OfResponse toHead status headers .empty
  | chunked (h : ¬ Bodiless toHead status) (hc : NamesChunks headers) :
      OfResponse toHead status headers .chunked
  | fixed {n : ℕ} (h : ¬ Bodiless toHead status) (hc : ¬ NamesChunks headers)
      (hn : Announces headers n) : OfResponse toHead status headers (.fixed n)
  | untilClose (h : ¬ Bodiless toHead status) (hc : ¬ NamesChunks headers)
      (hn : ∀ n, ¬ Announces headers n) : OfResponse toHead status headers .untilClose

theorem isChunked_iff (headers : Http.Headers) :
    Framing.isChunked headers = true ↔ NamesChunks headers := by
  simp [Framing.isChunked, NamesChunks, Text.contains, Text.occursIn_iff_infix, Option.any_eq_true]

theorem isBodiless_iff (toHead : Bool) (status : UInt16) :
    (toHead || Framing.isBodiless status) = true ↔ Bodiless (toHead = true) status := by
  simp [Framing.isBodiless, Bodiless, or_assoc]

theorem Announces.unique {headers : Http.Headers} {m n : ℕ} (hm : Announces headers m)
    (hn : Announces headers n) : m = n := by
  obtain ⟨value, hv, hread⟩ := hm
  obtain ⟨value', hv', hread'⟩ := hn
  obtain rfl := Option.some.inj (hv.symm.trans hv')
  exact Except.ok.inj (hread.symm.trans hread')

namespace Framing

theorem OfResponse.unique {toHead : Prop} {status : UInt16} {headers : Http.Headers}
    {framing framing' : Framing} (h : OfResponse toHead status headers framing)
    (h' : OfResponse toHead status headers framing') : framing = framing' := by
  cases h with
  | empty h => cases h' <;> first | rfl | contradiction
  | chunked h hc => cases h' <;> first | rfl | contradiction
  | fixed h hc hn =>
      cases h' with
      | fixed _ _ hn' => rw [hn.unique hn']
      | untilClose _ _ hn' => exact (hn' _ hn).elim
      | _ => contradiction
  | untilClose h hc hn =>
      cases h' with
      | fixed _ _ hn' => exact (hn _ hn').elim
      | untilClose => rfl
      | _ => contradiction

theorem ofResponse_spec (toHead : Bool) (status : UInt16) (headers : Http.Headers) :
    OfResponse (toHead = true) status headers (ofResponse toHead status headers) := by
  unfold ofResponse
  split
  · rename_i h
    exact .empty ((isBodiless_iff _ _).mp h)
  · rename_i h
    have hbody := mt (isBodiless_iff toHead status).mpr h
    split
    · rename_i h
      exact .chunked hbody ((isChunked_iff headers).mp h)
    · rename_i h
      have hplain := mt (isChunked_iff headers).mpr h
      split
      · rename_i hnone
        refine .untilClose hbody hplain fun n hn => ?_
        obtain ⟨value, hv, -⟩ := hn
        cases hnone.symm.trans hv
      · rename_i value hsome
        split
        · rename_i n hread
          exact .fixed hbody hplain ⟨value, hsome, hread⟩
        · rename_i hread
          refine .untilClose hbody hplain fun n hn => ?_
          obtain ⟨value', hv, hok⟩ := hn
          obtain rfl := Option.some.inj (hsome.symm.trans hv)
          cases hread.symm.trans hok

/-- Every response has exactly one framing. -/
theorem ofResponse_iff {toHead : Bool} {status : UInt16} {headers : Http.Headers}
    {framing : Framing} : OfResponse (toHead = true) status headers framing ↔
      ofResponse toHead status headers = framing := by
  constructor
  · exact (ofResponse_spec toHead status headers).unique
  · rintro rfl
    exact ofResponse_spec toHead status headers

end Framing

/-! ## The relay -/

/-- The record of an exchange without a response so far. -/
structure Unanswered (e : Exchange) : Prop where
  outcome : e.outcome = .completed
  note : e.note = none
  size : e.responseSize = none

/-- The record of a response that came back whole. -/
structure Relayed (head : Http.ResponseHead) (data : Bytes) (e : Exchange) : Prop where
  outcome : e.outcome = .completed
  note : e.note = none
  status : e.status = some head.status
  reason : e.reason = some head.reason
  headers : e.responseHeaders = head.headers
  body : e.responseBody = Capture.kept? data
  size : e.responseSize = some (UInt64.ofNat data.length)

/-- The record of a response that broke off behind some of its data. -/
structure BrokenOff (head : Http.ResponseHead) (data : Bytes) (e : Exchange) : Prop where
  outcome : e.outcome = .failed
  note : ∃ cause, e.note = some ("Response body relay failed: " ++ cause)
  status : e.status = some 502
  reason : e.reason = some "Failed to relay response"
  headers : e.responseHeaders = head.headers
  body : e.responseBody = Capture.kept? data
  size : e.responseSize = none

/-- Without a limit, only lines can be too long. -/
theorem Body.movable_none {b : Body} (h : ShortLines b.lines) : b.Movable none := by
  refine ⟨h, ?_⟩
  cases b with
  | chunked chunks => exact fun _ hg => by cases hg
  | _ => trivial

section

variable {request : Request} {start : ℕ} {e : Exchange} {head : Http.ResponseHead} {held : Bytes}
  {client server : Peer} {clock : Clock} {framing : Framing}

theorem ofResponse_eq
    (hf : Framing.OfResponse (request.method = .head) head.status head.headers framing) :
    Framing.ofResponse (request.method == .head) head.status head.headers = framing := by
  rw [← Framing.ofResponse_iff, beq_iff_eq]
  exact hf

theorem relay_whole {b : Body} (he : Unanswered e)
    (hf : Framing.OfResponse (request.method = .head) head.status head.headers framing)
    (hb : framing.Finds ((delivery server.script).behind held) b) (hs : ShortLines b.lines)
    (hw : Outlasts clock server.script)
    (ha : client.Accepts ((responseHeadBytes head).length + b.wire.length)) :
    (Closing.relay request start e head held client server clock).client.received =
        client.received ++ responseHeadBytes head ++ b.wire ∧
      ∃ r, (Closing.relay request start e head held client server clock).record = some r ∧
        Relayed head b.data r := by
  obtain ⟨t, hsend, hadv⟩ := Move.send_eq_ok (t := ⟨server, client, clock, held, {}⟩) hb
    (Body.movable_none hs) hw ha
  have hrelay : Move.response head framing ⟨server, client, clock, held, {}⟩ =
      .ok b.data.length t := hsend
  unfold Closing.relay
  simp only [ofResponse_eq hf, hrelay]
  refine ⟨by simpa using hadv.received, _, rfl, ?_⟩
  exact ⟨he.outcome, he.note, rfl, rfl, rfl, hadv.body? rfl, rfl⟩

theorem relay_brokenOff (he : Unanswered e)
    (hf : Framing.OfResponse (request.method = .head) head.status head.headers framing)
    (hb : ∀ b, ¬ framing.Finds ((delivery server.script).behind held) b)
    (hw : Outlasts clock server.script)
    (ha : client.Accepts
      ((responseHeadBytes head).length + ((delivery server.script).behind held).bytes.length)) :
    ∃ part, part <+: held ++ (delivery server.script).bytes ∧
      (Closing.relay request start e head held client server clock).client.received =
        client.received ++ responseHeadBytes head ++ part ∧
      (((delivery server.script).ending = .silent ∧
          (Closing.relay request start e head held client server clock).record = none) ∨
        ∃ r, (Closing.relay request start e head held client server clock).record = some r ∧
          BrokenOff head (framing.dataOf part) r) := by
  unfold Closing.relay
  simp only [ofResponse_eq hf]
  cases hrelay : Move.response head framing ⟨server, client, clock, held, {}⟩ with
  | ok n t =>
      obtain ⟨b, hfound, -⟩ := (Move.send_spec _ _ _ _).of_ok hrelay
      exact (hb b hfound).elim
  | error s t =>
      obtain ⟨part, hp, heffect, hsilent⟩ := Move.send_eq_error
        (t := ⟨server, client, clock, held, {}⟩) ha hrelay
      refine ⟨part, hp, ?_⟩
      cases s with
      | waiting =>
          refine ⟨by simpa [Closing.waiting] using heffect.received, Or.inl ?_⟩
          exact ⟨hsilent rfl hw, rfl⟩
      | failed fault =>
          refine ⟨by simpa using heffect.received, Or.inr ⟨_, rfl, ?_⟩⟩
          exact ⟨rfl, ⟨_, rfl⟩, rfl, rfl, rfl, heffect.body? rfl, he.size⟩

/-! ## The exchange -/

/-- A request was sent on, which left the transfer as it is in `t`, and the server answered with a
head, behind which it delivers `B`. -/
structure Answers (request : Request) (held : Bytes) (client : Peer) (clock : Clock)
    (server : Peer) (t : Transfer) (raw : Bytes) (head : Http.ResponseHead) (B : Delivery) :
    Prop where
  sent : ∃ n, Move.request request ⟨client, server, clock, held, {}⟩ = .ok n t
  came : ∃ behind, (readHead t.sink t.clock).1 = .ok (raw, behind)
  understood : ∃ rest, Http.Head.response fieldLimit raw = .ok (head, rest)
  remainder : delivery server.script = B.behind raw

variable {t : Transfer} {raw : Bytes} {B : Delivery}

theorem Answers.effect (h : Answers request held client clock server t raw head B) :
    ∃ written data, Effect written data ⟨client, server, clock, held, {}⟩ t := by
  obtain ⟨n, hsent⟩ := h.sent
  exact (Move.send_effect _ _ _ _).of_ok hsent

/-- The client is left to the response as it was, but for what was read from it. -/
theorem Answers.client_eq (h : Answers request held client clock server t raw head B) :
    t.source = { client with script := t.source.script, reads := t.source.reads } := by
  obtain ⟨_, _, heffect⟩ := h.effect
  exact heffect.source

theorem Answers.script_eq (h : Answers request held client clock server t raw head B) :
    t.sink.script = server.script := by
  obtain ⟨_, _, heffect⟩ := h.effect
  rw [heffect.sink]

/-- What is relayed is what the server delivers behind the head. -/
theorem Answers.ofRequest_eq (start : ℕ)
    (h : Answers request held client clock server t raw head B) (he : Unanswered e) :
    ∃ e' behind server' later,
      Closing.ofRequest request start e held client clock (some server) =
        Closing.relay request start e' head behind t.source server' later ∧
      Unanswered e' ∧ (delivery server'.script).behind behind = B ∧
      t.sink.Heard server' t.clock later := by
  obtain ⟨n, hsent⟩ := h.sent
  obtain ⟨behind, hcame⟩ := h.came
  obtain ⟨rest, hhead⟩ := h.understood
  obtain ⟨server', later, hread⟩ : ∃ server' later,
      readHead t.sink t.clock = (.ok (raw, behind), server', later) :=
    ⟨_, _, by rw [← hcame]⟩
  have hheard := heard_readHead t.sink t.clock
  rw [hread] at hheard
  have hall := delivery_of_readHead hread
  rw [h.script_eq, h.remainder, ← Delivery.behind_behind] at hall
  let e' := { e with
    requestBody := t.captured.body?
    timing := { e.timing with
      send := some (t.clock.since clock.now)
      wait := some (later.since t.clock.now) } }
  have heq : Closing.ofRequest request start e held client clock (some server) =
      Closing.relay request start e' head behind t.source server' later := by
    simp only [Closing.ofRequest, hsent, Closing.respond, hread, hhead, e']
  have hbehind := Delivery.behind_injective raw hall
  exact ⟨e', behind, server', later, heq, ⟨he.outcome, he.note, he.size⟩, hbehind.symm, hheard⟩

/-- A connection with a server that answers comes to the relay of the answer, to a client that is as
it was. -/
theorem Answers.conclude_eq (stamp : Stamp) {servers : List Server} {i : ℕ} {u : Server}
    (hu : servers[i]? = some u) (hreach : clock.allows u.delay = true)
    (h : Answers request held client (clock.after u.delay) u.peer t raw head B)
    (hw : Outlasts t.clock u.peer.script) :
    ∃ e behind server later,
      Passage.conclude stamp servers (.under request held client clock (some i)) =
        Closing.relay request 0 e head behind t.source server later ∧
      Unanswered e ∧ (delivery server.script).behind behind = B ∧ Outlasts later server.script ∧
        t.source.received = client.received ∧ ∀ n, client.Accepts n → t.source.Accepts n := by
  have hpending : Unanswered { request.exchange with
      id := stamp.id
      timing := { startedAt := stamp.acceptedAt + Int64.ofNat clock.now } } := ⟨rfl, rfl, rfl⟩
  obtain ⟨e, behind, server, later, heq, he, hB, hheard⟩ := h.ofRequest_eq 0 hpending
  refine ⟨e, behind, server, later, ?_, he, hB, ?_, ?_, fun n ha => ?_⟩
  · rw [← heq]
    simp only [Passage.conclude, Option.bind_some, hu, hreach, if_true]
  · rw [← h.script_eq] at hw
    exact hheard.time.outlasts hw
  · rw [h.client_eq]
    rfl
  · rw [h.client_eq]
    exact ha

/-- A complete body is relayed, whole and alone, and recorded by its data. Of a body that is not
complete some front is relayed, and the exchange is recorded as failed with the data in it unless
it still waits. -/
theorem response_relayed (stamp : Stamp) {servers : List Server} {i : ℕ} {u : Server}
    (hu : servers[i]? = some u) (hreach : clock.allows u.delay = true)
    (h : Answers request held client (clock.after u.delay) u.peer t raw head B)
    (hw : Outlasts t.clock u.peer.script)
    (hf : Framing.OfResponse (request.method = .head) head.status head.headers framing) :
    let closing := Passage.conclude stamp servers (.under request held client clock (some i))
    (∀ b, framing.Finds B b → ShortLines b.lines →
      client.Accepts ((responseHeadBytes head).length + b.wire.length) →
        closing.client.received = client.received ++ responseHeadBytes head ++ b.wire ∧
          ∃ r, closing.record = some r ∧ Relayed head b.data r) ∧
    ((∀ b, ¬ framing.Finds B b) →
      client.Accepts ((responseHeadBytes head).length + B.bytes.length) →
      ∃ part, part <+: B.bytes ∧
        closing.client.received = client.received ++ responseHeadBytes head ++ part ∧
        ((B.ending = .silent ∧ closing.record = none) ∨
          ∃ r, closing.record = some r ∧ BrokenOff head (framing.dataOf part) r)) := by
  intro closing
  obtain ⟨e, behind, server, later, hclosing, he, rfl, hlater, hreceived, haccepts⟩ :=
    h.conclude_eq stamp hu hreach hw
  rw [show closing = _ from hclosing, ← hreceived]
  constructor
  · intro b hb hs ha
    exact relay_whole he hf hb hs hlater (haccepts _ ha)
  · intro hb ha
    exact relay_brokenOff he hf hb hlater (haccepts _ ha)

end

/-! ## One response -/

/-- A request without a body. -/
def pageRequest : Request := ⟨.get, ⟨.http, "page", 80, "/"⟩, "HTTP/1.1", [], .empty⟩

def pageHead : Http.ResponseHead := ⟨1, 200, "OK", [("transfer-encoding", "chunked")]⟩

/-- The head as it is sent. -/
def pageHeadBytes : Bytes := Bytes.ofAscii "HTTP/1.1 200 OK\r\ntransfer-encoding: chunked\r\n\r\n"

/-- One chunk of three bytes, and a trailer behind the last one. -/
def pageBody : ChunkedBody :=
  .chunk (Bytes.ofAscii "3\r\n") (Bytes.ofAscii "abc") (by decide) (by decide +kernel) (by decide)
    (.last (Bytes.ofAscii "0\r\n") (by decide) (by decide +kernel)
      (.field (Bytes.ofAscii "a: b\r\n") (by decide) (by decide) .blank))

/-- A server that answers in three pieces and sends more than the body. -/
def pageServer : Server where
  host := "page"
  port := 80
  delay := 5
  peer := { script := [
    .arrival (pageHeadBytes ++ Bytes.ofAscii "3\r"), .delay 7,
    .arrival (Bytes.ofAscii "\nab"), .arrival (Bytes.ofAscii "c\r\n0\r\na: b\r\n\r\nmore")] }

theorem response_relayed_page :
    let closing := Passage.conclude ⟨"0", 0⟩ [pageServer]
      (.under pageRequest [] {} ⟨100, []⟩ (some 0))
    closing.client.received = responseHeadBytes pageHead ++ pageBody.wire ∧
      ∃ r, closing.record = some r ∧ Relayed pageHead (Bytes.ofAscii "abc") r := by
  have h : Answers pageRequest [] {} ⟨100, [5]⟩ pageServer.peer
      ⟨{}, { pageServer.peer with writes := [pageRequest.headBytes] }, ⟨100, [5]⟩, [], {}⟩
      pageHeadBytes pageHead ⟨pageBody.wire ++ Bytes.ofAscii "more", .ended⟩ :=
    ⟨⟨0, rfl⟩, ⟨Bytes.ofAscii "3\r", by decide +kernel⟩, ⟨[], by decide +kernel⟩, by decide⟩
  have hf : Framing.OfResponse (pageRequest.method = .head) pageHead.status pageHead.headers
      .chunked :=
    .chunked (by simp [Bodiless, pageRequest, pageHead]) ⟨"chunked", by decide +kernel, by decide⟩
  have hb : Framing.chunked.Finds ⟨pageBody.wire ++ Bytes.ofAscii "more", .ended⟩
      (.chunked pageBody) := ⟨rfl, prefix_append _ _⟩
  exact (response_relayed _ rfl rfl h (by decide) hf).1 _ hb (by decide) fun _ hr => by cases hr

end Proxy

end TrafficCapture
