import TrafficCapture.Proofs.Proxy.Body
import TrafficCapture.Proofs.Proxy.Head
import TrafficCapture.Proxy.Service

/-! # Requests

What a server receives follows from the request and from what the client delivers behind its head,
however it is cut. Nothing that happens later adds to it. -/

namespace TrafficCapture.Proxy

open Net List

/-! ## What comes after the request -/

/-- A server receives nothing more, and whatever is recorded has the given request body. -/
structure Closing.Keeps (server : Peer) (body : Option Bytes) (c : Closing) : Prop where
  received : ∃ left, c.server = some left ∧ left.received = server.received
  body : ∀ r, c.record = some r → r.requestBody = body

section

variable {b : Breakdown} {request : Request} {start : ℕ} {e : Exchange} {client server : Peer}
  {clock : Clock}

theorem keeps_waiting (client server : Peer) (body : Option Bytes) (clock : Clock) :
    (Closing.waiting client server clock).Keeps server body :=
  ⟨⟨server, rfl, rfl⟩, fun _ h => by cases h⟩

theorem keeps_breakdown (b : Breakdown) (start : ℕ) (e : Exchange) (client server : Peer)
    (clock : Clock) :
    (Closing.breakdown b start e client (some server) clock).Keeps server e.requestBody := by
  refine ⟨⟨server.close, rfl, rfl⟩, fun r h => ?_⟩
  simp only [Closing.breakdown] at h
  split at h
  · cases h
    rfl
  · cases h

theorem Closing.Keeps.of_heard {server server' : Peer} {clock clock' : Clock} {c : Closing}
    {body : Option Bytes} (hs : server.Heard server' clock clock') (h : c.Keeps server' body) :
    c.Keeps server body := by
  obtain ⟨left, hleft, hreceived⟩ := h.received
  exact ⟨⟨left, hleft, hreceived.trans hs.received_eq⟩, h.body⟩

theorem keeps_relay (request : Request) (start : ℕ) (e : Exchange) (head : Http.ResponseHead)
    (held : Bytes) (client server : Peer) (clock : Clock) :
    (Closing.relay request start e head held client server clock).Keeps server e.requestBody := by
  have hsource {t : Transfer}
      (h : ∃ written data, Effect written data ⟨server, client, clock, held, {}⟩ t) :
      t.source.received = server.received := by
    obtain ⟨written, data, he⟩ := h
    rw [he.source]
    rfl
  have heffect := Move.send_effect (responseHeadBytes head) none
    (Framing.ofResponse (request.method == .head) head.status head.headers)
    ⟨server, client, clock, held, {}⟩
  cases hrelay : Move.response head
      (Framing.ofResponse (request.method == .head) head.status head.headers)
      ⟨server, client, clock, held, {}⟩ with
  | ok n t =>
      simp only [Closing.relay, hrelay]
      refine ⟨⟨t.source.close, rfl, hsource (heffect.of_ok hrelay)⟩, fun r h => ?_⟩
      cases h
      rfl
  | error s t =>
      have hreceived := hsource (heffect.of_error hrelay)
      cases s with
      | waiting =>
          simp only [Closing.relay, hrelay]
          exact ⟨⟨t.source, rfl, hreceived⟩, fun _ h => by cases h⟩
      | failed fault =>
          simp only [Closing.relay, hrelay]
          refine ⟨⟨t.source.close, rfl, hreceived⟩, fun r h => ?_⟩
          cases h
          rfl

theorem keeps_respond (request : Request) (start : ℕ) (e : Exchange) (client server : Peer)
    (clock : Clock) :
    (Closing.respond request start e client server clock).Keeps server e.requestBody := by
  have hheard := heard_readHead server clock
  unfold Closing.respond
  split
  · rename_i server' later hread
    rw [hread] at hheard
    exact (keeps_waiting client server' _ later).of_heard hheard
  · rename_i server' later _ hread
    rw [hread] at hheard
    exact (keeps_breakdown .noResponse start e client server' later).of_heard hheard
  · rename_i raw held server' later hread
    rw [hread] at hheard
    split
    · exact (keeps_breakdown .noResponse start e client server' later).of_heard hheard
    · rename_i head _ _
      exact .of_heard hheard (keeps_relay request start
        { e with timing := { e.timing with wait := some (later.since clock.now) } } head held client
        server' later)

end

/-! ## The request -/

/-- The record of a request that was given up behind some of its data. -/
structure GivenUp (b : Breakdown) (data : Bytes) (r : Exchange) : Prop where
  outcome : r.outcome = .failed
  status : r.status = some b.reply.status
  reason : r.reason = some b.reason
  note : r.note = some b.note
  body : r.requestBody = Capture.kept? data

/-- What it means to give an exchange up: the client is told, and if it takes all of that, the
exchange is recorded. -/
structure Closing.Abandoned (b : Breakdown) (data : Bytes) (client : Peer) (c : Closing) :
    Prop where
  told : c.client.received = client.received ++ client.accepted b.reply.bytes
  recorded : client.Accepts b.reply.bytes.length → c.record.isSome
  record : ∀ r, c.record = some r → GivenUp b data r

section

variable {request : Request} {start : ℕ} {e : Exchange} {held : Bytes} {client server : Peer}
  {clock : Clock}

theorem abandoned_breakdown (b : Breakdown) (start : ℕ) {e : Exchange} {data : Bytes}
    (client : Peer) (server : Option Peer) (clock : Clock)
    (he : e.requestBody = Capture.kept? data) :
    (Closing.breakdown b start e client server clock).Abandoned b data client where
  told := Peer.received_write client b.reply.bytes
  recorded := fun ha => by
    simp only [Closing.breakdown, (client.write_fst _).mpr ha]
    rfl
  record := fun r h => by
    simp only [Closing.breakdown] at h
    split at h
    · cases h
      exact ⟨rfl, rfl, rfl, rfl, he⟩
    · cases h

/-- It does not matter what was read from the client before. -/
theorem Closing.Abandoned.of_same {b : Breakdown} {data : Bytes} {client' : Peer} {c : Closing}
    (hs : client' = { client with script := client'.script, reads := client'.reads })
    (h : c.Abandoned b data client') : c.Abandoned b data client := by
  rw [hs] at h
  exact ⟨h.told, h.recorded, h.record⟩

/-- A body that is found and can be moved is sent on behind the head, and nothing else is. -/
theorem ofRequest_whole {b : Body}
    (hb : request.framing.Finds ((delivery client.script).behind held) b)
    (hm : b.Movable (some requestBodyLimit)) (hw : Outlasts clock client.script)
    (ha : server.Accepts (request.headBytes.length + b.wire.length)) :
    ∃ left, (Closing.ofRequest request start e held client clock (some server)).server = some left ∧
      left.received = server.received ++ request.headBytes ++ b.wire ∧
      ∀ r, (Closing.ofRequest request start e held client clock (some server)).record = some r →
        r.requestBody = Capture.kept? b.data := by
  obtain ⟨t, hsend, hadv⟩ := Move.send_eq_ok (t := ⟨client, server, clock, held, {}⟩) hb hm hw ha
  have hrequest : Move.request request ⟨client, server, clock, held, {}⟩ = .ok b.data.length t :=
    hsend
  have hkeeps := keeps_respond request start { e with
    requestBody := t.captured.body?
    timing := { e.timing with send := some (t.clock.since clock.now) } } t.source t.sink t.clock
  obtain ⟨left, hleft, hreceived⟩ := hkeeps.received
  simp only [Closing.ofRequest, hrequest]
  refine ⟨left, hleft, ?_, fun r hr => ?_⟩
  · rw [hreceived, hadv.received, append_assoc]
  · rw [hkeeps.body r hr]
    exact hadv.body? rfl

/-- If there is no such body, only some front of what there is is sent on, and the exchange is
given up with the data in it unless it still waits. -/
theorem ofRequest_broken
    (hb : ∀ b, request.framing.Finds ((delivery client.script).behind held) b →
      ¬ b.Admitted (some requestBodyLimit))
    (hw : Outlasts clock client.script)
    (ha : server.Accepts
      (request.headBytes.length + ((delivery client.script).behind held).bytes.length)) :
    ∃ part left, part <+: held ++ (delivery client.script).bytes ∧
      (Closing.ofRequest request start e held client clock (some server)).server = some left ∧
      left.received = server.received ++ request.headBytes ++ part ∧
      (((delivery client.script).ending = .silent ∧
          (Closing.ofRequest request start e held client clock (some server)).record = none) ∨
        ∃ b, (b = .notForwarded ∨ b = .tooLarge) ∧
          (Closing.ofRequest request start e held client clock (some server)).Abandoned b
            (request.framing.dataOf part) client) := by
  cases hrequest : Move.request request ⟨client, server, clock, held, {}⟩ with
  | ok n t =>
      obtain ⟨b, hfound, hadmitted, -⟩ := (Move.send_spec _ _ _ _).of_ok hrequest
      exact (hb b hfound hadmitted).elim
  | error s t =>
      obtain ⟨part, hp, heffect, hsilent⟩ := Move.send_eq_error
        (t := ⟨client, server, clock, held, {}⟩) ha hrequest
      cases s with
      | waiting =>
          refine ⟨part, t.sink, hp, ?_, ?_, Or.inl ⟨hsilent rfl hw, ?_⟩⟩
          · simp only [Closing.ofRequest, hrequest, Closing.waiting]
          · simpa using heffect.received
          · simp only [Closing.ofRequest, hrequest, Closing.waiting]
      | failed fault =>
          refine ⟨part, t.sink.close, hp, ?_, ?_, Or.inr ⟨.ofFault fault, ?_, ?_⟩⟩
          · simp only [Closing.ofRequest, hrequest, Closing.breakdown, Option.map_some]
          · simpa using heffect.received
          · cases fault <;> simp [Breakdown.ofFault]
          · simp only [Closing.ofRequest, hrequest]
            exact (abandoned_breakdown _ start t.source (some t.sink) t.clock
              (heffect.body? rfl)).of_same heffect.source

end

/-- Behind the head, a server receives the body of the request whole and alone. If there is no such
body it receives some front of what there is, and the exchange is given up with the data in it
unless it still waits. -/
theorem request_forwarded (stamp : Stamp) {servers : List Server} {i horizon : ℕ} {u : Server}
    {client left : Peer} {request : Request} {held : Bytes} {clock : Clock}
    (h : opening client ⟨horizon, []⟩ = .wanted request held left clock)
    (hu : servers[i]? = some u) (hw : waits client.script + u.delay ≤ horizon) :
    let closing := Passage.conclude stamp servers (.under request held left clock (some i))
    ∃ raw rest, Bytes.EndsAtFirst Bytes.headEnd raw ∧ delivery client.script = rest.behind raw ∧
      (∀ b, request.framing.Finds rest b → b.Movable (some requestBodyLimit) →
        u.peer.Accepts (request.headBytes.length + b.wire.length) →
          ∃ server, closing.server = some server ∧
            server.received = u.peer.received ++ request.headBytes ++ b.wire ∧
            ∀ r, closing.record = some r → r.requestBody = Capture.kept? b.data) ∧
      ((∀ b, request.framing.Finds rest b → ¬ b.Admitted (some requestBodyLimit)) →
        u.peer.Accepts (request.headBytes.length + rest.bytes.length) →
          ∃ part server, part <+: rest.bytes ∧ closing.server = some server ∧
            server.received = u.peer.received ++ request.headBytes ++ part ∧
            ((rest.ending = .silent ∧ closing.record = none) ∨
              ∃ b, (b = .notForwarded ∨ b = .tooLarge) ∧
                closing.Abandoned b (request.framing.dataOf part) client)) := by
  intro closing
  obtain ⟨raw, haccepted⟩ := accepted_of_opening h
  have hnow : clock.now + waits left.script = waits client.script := by
    simpa [Clock.now] using haccepted.heard.time.waits
  have hhorizon : clock.horizon = horizon := haccepted.heard.time.horizon
  have hreach : clock.allows u.delay = true := by
    simp only [Clock.allows, decide_eq_true_eq]
    omega
  have hwatch : Outlasts (clock.after u.delay) left.script := by
    simp only [Outlasts, Clock.after_now, Clock.after_horizon]
    omega
  have hclosing : closing = Closing.ofRequest request 0 { request.exchange with
      id := stamp.id
      timing := { startedAt := stamp.acceptedAt + Int64.ofNat clock.now } }
      held left (clock.after u.delay) (some u.peer) := by
    simp only [closing, Passage.conclude, Option.bind_some, hu, hreach, if_true]
  refine ⟨raw, (delivery left.script).behind held, haccepted.ends, ?_, ?_, ?_⟩
  · rw [haccepted.delivered, Delivery.behind_behind]
  · intro b hb hm ha
    rw [hclosing]
    exact ofRequest_whole hb hm hwatch ha
  · intro hb ha
    rw [hclosing]
    obtain ⟨part, server, hp, hserver, hreceived, hend⟩ := ofRequest_broken hb hwatch ha
    refine ⟨part, server, hp, hserver, hreceived, hend.imp_right ?_⟩
    rintro ⟨b, hkind, habandoned⟩
    exact ⟨b, hkind, habandoned.of_same haccepted.heard.same⟩

/-! ## One request -/

/-- A client that sends a form in three pieces, and more than it announced. -/
def formClient : Peer where
  script := [
    .arrival (Bytes.ofAscii "POST http://page/a HTTP/1.1\r\nContent-Le"), .delay 3,
    .arrival (Bytes.ofAscii "ngth: 5\r\n\r\nab"), .arrival (Bytes.ofAscii "cdeGET")]

def formRequest : Request :=
  ⟨.post, ⟨.http, "page", 80, "/a"⟩, "HTTP/1.1", [("Content-Length", "5")], .fixed 5⟩

def formServer : Server := { host := "page", port := 80, delay := 5, peer := {} }

/-- What is left of the client when its request is to be forwarded. -/
def formLeft : Peer := { script := [.arrival (Bytes.ofAscii "cdeGET")], reads := 2 }

def formHeadBytes : Bytes :=
  Bytes.ofAscii "POST http://page/a HTTP/1.1\r\nContent-Length: 5\r\n\r\n"

theorem opening_form :
    opening formClient ⟨100, []⟩ =
      .wanted formRequest (Bytes.ofAscii "ab") formLeft ⟨100, [3]⟩ := by
  decide +kernel

theorem delivery_form :
    (delivery formClient.script).bytes = formHeadBytes ++ Bytes.ofAscii "abcdeGET" := by
  decide +kernel

theorem request_forwarded_form :
    let closing := Passage.conclude ⟨"0", 0⟩ [formServer]
      (.under formRequest (Bytes.ofAscii "ab") formLeft ⟨100, [3]⟩ (some 0))
    ∃ server, closing.server = some server ∧
      server.received = formRequest.headBytes ++ Bytes.ofAscii "abcde" ∧
      ∀ r, closing.record = some r →
        r.requestBody = Capture.kept? (Bytes.ofAscii "abcde") := by
  intro closing
  have hu : [formServer][0]? = some formServer := rfl
  have hw : waits formClient.script + formServer.delay ≤ 100 := by decide
  obtain ⟨raw, rest, hraw, hrest, hwhole, -⟩ := request_forwarded ⟨"0", 0⟩ opening_form hu hw
  have hhead : Bytes.EndsAtFirst Bytes.headEnd formHeadBytes := by decide +kernel
  have hall := delivery_form.symm.trans (congrArg Delivery.bytes hrest)
  have hbytes := (hhead.unique hraw headEnd_ne_nil hall).2
  have hb : formRequest.framing.Finds rest (.fixed (Bytes.ofAscii "abcde")) :=
    ⟨rfl, Bytes.ofAscii "GET", hbytes⟩
  exact hwhole _ hb ⟨by decide, trivial⟩ fun _ hr => by cases hr

end TrafficCapture.Proxy
