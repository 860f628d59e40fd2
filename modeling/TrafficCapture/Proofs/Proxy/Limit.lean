import TrafficCapture.Proofs.Proxy.Acceptance
import TrafficCapture.Proofs.Proxy.Excess
import TrafficCapture.Proofs.Proxy.Record
import TrafficCapture.Proofs.Proxy.Request
import TrafficCapture.Proofs.Proxy.Service

/-! # The limit of request bodies

A request that announces too long a body is refused before a server is sought. A chunked request is
given up at the first line that takes it beyond the limit. Either way, no server is ever sent more
data of a body than the limit. -/

namespace TrafficCapture.Proxy

open Net List

/-! ## What is sent of a request -/

/-- The framings of requests that are accepted. -/
def Framing.Limited : Framing → Prop
  | .fixed n => n ≤ requestBodyLimit
  | .untilClose => False
  | _ => True

theorem Request.OfHead.limited {head : Http.RequestHead} {request : Request}
    (h : request.OfHead head) : request.framing.Limited := by
  have hframing := h.framing
  cases hf : request.framing with
  | empty | chunked => trivial
  | untilClose =>
      rw [hf] at hframing
      cases hframing
  | fixed n =>
      rw [hf] at hframing
      cases hframing with
      | fixed _ hn =>
          obtain ⟨value, hvalue, hread⟩ := hn
          obtain ⟨m, hm, hread'⟩ := h.length value hvalue
          obtain rfl := Except.ok.inj (hread.symm.trans hread')
          exact hm

/-- No more data of a body than the limit is part of what was sent. -/
inductive SentWithin (request : Request) (sent : Bytes) : Prop
  | head (h : sent <+: request.headBytes)
  | body {part : Bytes} (h : sent = request.headBytes ++ part)
      (hdata : (request.framing.dataOf part).length ≤ requestBodyLimit)

/-- No body within the limit goes on behind a line that exceeds it. -/
theorem Exceeds.not_admitted {limit size : ℕ} {wire line data rest : Bytes} {sizes : List ℕ}
    {b : Body} (h : Exceeds limit wire line sizes size data) (hchunked : b.framing = .chunked)
    (hreached : wire ++ line <+: b.wire ++ rest) : ¬ b.Admitted (some limit) := by
  cases b with
  | chunked chunks =>
      obtain ⟨more, hmore⟩ := hreached
      rw [append_assoc] at hmore
      intro hadmitted
      exact absurd (hadmitted limit rfl) (Nat.not_le.mpr (h.lt_length_data chunks hmore))
  | _ => cases hchunked

/-- What was sent and kept of a request that was not sent as a whole. -/
inductive Unsent (request : Request) : Bytes → Bytes → Stop → Prop
  | head {part kept : Bytes} {s : Stop} (hpart : part <+: request.headBytes)
      (hne : part ≠ request.headBytes) (cause : ∀ most, s ≠ .failed (.tooLarge most)) :
      Unsent request part kept s
  | fixed {n : ℕ} {part kept : Bytes} {s : Stop} (hframing : request.framing = .fixed n)
      (hpart : part.length ≤ n) (cause : ∀ most, s ≠ .failed (.tooLarge most)) :
      Unsent request (request.headBytes ++ part) kept s
  | chunks {part kept : Bytes} {s : Stop} (hframing : request.framing = .chunked)
      (h : Move.Breaks requestBodyLimit requestBodyLimit part kept s) :
      Unsent request (request.headBytes ++ part) kept s

section

variable {request : Request} {sent kept : Bytes} {s : Stop}

theorem Unsent.sentWithin (h : Unsent request sent kept s) (hl : request.framing.Limited) :
    SentWithin request sent := by
  cases h with
  | head hpart => exact .head hpart
  | @fixed n part _ _ hframing hpart =>
      refine .body rfl ?_
      rw [hframing] at hl ⊢
      exact hpart.trans hl
  | chunks hframing h =>
      refine .body rfl ?_
      rw [hframing]
      exact h.length_dataOf_le

/-- Only what exceeds the limit is a reason to give up because of it. -/
theorem Unsent.exceeds (h : Unsent request sent kept s) {most : ℕ}
    (hs : s = .failed (.tooLarge most)) :
    request.framing = .chunked ∧ ∃ wire line sizes size,
      Exceeds requestBodyLimit wire line sizes size kept ∧
        sent = request.headBytes ++ (wire ++ line) := by
  cases h with
  | head _ _ cause | fixed _ _ cause => exact (cause most hs).elim
  | chunks hframing h =>
      obtain ⟨wire, line, sizes, size, hexceeds, rfl⟩ := h.exceeds hs
      exact ⟨hframing, wire, line, sizes, size, hexceeds, rfl⟩

/-- What exceeds the limit is a reason, and the last thing that is sent. -/
theorem Unsent.of_reached (h : Unsent request sent kept s) (hframing : request.framing = .chunked)
    {wire line data : Bytes} {sizes : List ℕ} {size : ℕ}
    (hexceeds : Exceeds requestBodyLimit wire line sizes size data)
    (hsent : request.headBytes ++ (wire ++ line) <+: sent) :
    s = .failed (.tooLarge requestBodyLimit) ∧ sent = request.headBytes ++ (wire ++ line) ∧
      kept = data := by
  cases h with
  | head hpart hne =>
      have hle := (prefix_append request.headBytes _).trans hsent
      exact (hne (hpart.eq_of_length_le hle.length_le)).elim
  | fixed hfixed => cases hframing.symm.trans hfixed
  | chunks _ h =>
      obtain ⟨hs, rfl, hkept⟩ := h.of_reached hexceeds (prefix_append_right_inj _ |>.mp hsent)
      exact ⟨hs, rfl, hkept⟩

end

section

variable {request : Request} {held : Bytes} {client server : Peer} {clock : Clock}

/-- However the server refuses and the client ends, a request is left unsent as described. -/
theorem request_unsent (hl : request.framing.Limited) (t : Transfer) :
    (Move.request request).Ends t (fun _ _ => True)
      (fun s t' => ∃ sent kept, Effect sent kept t t' ∧ Unsent request sent kept s) := by
  refine ((Move.put_spec _ t).mix (Move.put_falters _ t)).bind (fun _ t₁ h₁ => ?_) fun s t₁ h => ?_
  · cases hframing : request.framing with
    | empty => exact .pure trivial
    | untilClose => exact (hframing ▸ hl).elim
    | fixed n =>
        refine (Move.data_falters Move.mild_fixed n t₁).bind (fun _ _ _ => trivial) fun s t₂ h => ?_
        obtain ⟨part, kept, he, hpart⟩ := h.effect
        exact ⟨_, _, h₁.1.toEffect.trans he, .fixed hframing hpart h.cause⟩
    | chunked =>
        refine .get ((Move.chunks_breaks requestBodyLimit _ 0 t₁ (Nat.zero_le _)
          (Nat.lt_succ_of_le (Move.upcoming_length_le t₁))).mono_stopped fun s t₂ h => ?_)
        obtain ⟨part, kept, he, hbreaks⟩ := h
        exact ⟨_, _, h₁.1.toEffect.trans he, .chunks hframing hbreaks⟩
  · obtain ⟨part, kept, he, hpart, hne⟩ := h.effect
    exact ⟨part, kept, he, .head hpart hne h.cause⟩

/-- What exceeds the limit is reached where no line is too long to be waited for, the watch is long
enough, and the server takes what is in front of it. -/
theorem request_exceeded (hframing : request.framing = .chunked) (t : Transfer)
    {wire line data : Bytes} {sizes : List ℕ} {size : ℕ} (hwatch : t.Watched)
    (hfit : Move.ChunksFit t.upcoming.bytes)
    (hexceeds : Exceeds requestBodyLimit wire line sizes size data)
    (hup : wire ++ line <+: t.upcoming.bytes)
    (hacc : t.sink.Accepts (request.headBytes ++ (wire ++ line)).length) :
    (Move.request request).Ends t (fun _ _ => False)
      (fun _ t' => Effect (request.headBytes ++ (wire ++ line)) data t t') := by
  rw [length_append] at hacc
  refine (Move.put_spec _ t).bind (fun _ t₁ h₁ => ?_) fun s t₁ h => ?_
  · have hsame : t₁.upcoming = t.upcoming := by simpa using h₁.1.upcoming.symm
    obtain ⟨rest, hrest⟩ := hup
    rw [append_assoc] at hrest
    rw [hframing]
    refine .get ((Move.chunks_exceeded _ 0 t₁ (Nat.zero_le _)
      (Nat.lt_succ_of_le (Move.upcoming_length_le t₁)) (h₁.1.watched hwatch) (hsame ▸ hfit)
      hexceeds (hsame ▸ hrest.symm) (h₁.1.accepts hacc)).mono_stopped fun s t₂ h => ?_)
    exact h₁.1.toEffect.trans h.2
  · exact (h.not_accepted (hacc.mono (Nat.le_add_right _ _))).elim

/-- A request that was sent as a whole is within the limit. -/
theorem request_sent {t : Transfer} {n : ℕ} {t' : Transfer} (hl : request.framing.Limited)
    (h : Move.request request t = .ok n t') :
    ∃ b : Body, request.framing.Finds t.upcoming b ∧ b.Admitted (some requestBodyLimit) ∧
      Effect (request.headBytes ++ b.wire) b.data t t' ∧
      SentWithin request (request.headBytes ++ b.wire) := by
  obtain ⟨b, hfinds, hadmitted, -, ha⟩ := (Move.send_spec _ _ _ _).of_ok h
  refine ⟨b, hfinds, hadmitted, ha.toEffect, .body rfl ?_⟩
  rw [← hfinds.framing_eq, b.dataOf_wire]
  have hlimited := hfinds.framing_eq ▸ hl
  cases b with
  | empty => exact Nat.zero_le _
  | fixed data => exact hlimited
  | chunked chunks => exact hadmitted requestBodyLimit rfl
  | untilClose data => exact hlimited.elim

/-- A server was sent some bytes of a request, within the limit. -/
structure Closing.Limited (request : Request) (client server : Peer) (Gives : Prop) (sent : Bytes)
    (c : Closing) : Prop where
  received : ∃ left, c.server = some left ∧ left.received = server.received ++ sent
  sentWithin : SentWithin request sent
  /-- Chunks are given up as too large where a line was sent that exceeds the limit. -/
  gives_iff : request.framing = .chunked → (Gives ↔
    ∃ wire line sizes size data, Exceeds requestBodyLimit wire line sizes size data ∧
      request.headBytes ++ (wire ++ line) <+: sent)
  /-- Nothing is sent behind that line, and the data of the chunks in front of it is recorded. -/
  abandoned : request.framing = .chunked → ∀ wire line sizes size data,
    Exceeds requestBodyLimit wire line sizes size data →
    request.headBytes ++ (wire ++ line) <+: sent →
      sent = request.headBytes ++ (wire ++ line) ∧ c.Abandoned .tooLarge data client

/-- Where no line is too long to be waited for, the client does not outlast the watch and the server
takes what is in front of the data, a line that exceeds the limit is reached. -/
def ReachesExcess (request : Request) (clock : Clock) (client server : Peer) (rest : Delivery)
    (sent : Bytes) : Prop :=
  request.framing = .chunked → ∀ wire line sizes size data,
    Exceeds requestBodyLimit wire line sizes size data → wire ++ line <+: rest.bytes →
    Move.ChunksFit rest.bytes → Outlasts clock client.script →
    server.Accepts (request.headBytes ++ (wire ++ line)).length →
      sent = request.headBytes ++ (wire ++ line)

theorem ofFault_eq_tooLarge_iff (fault : Fault) :
    Breakdown.ofFault fault = .tooLarge ↔ ∃ most, fault = .tooLarge most := by
  cases fault <;> simp [Breakdown.ofFault]

theorem givesUp_tooLarge_iff : GivesUp request held client clock (some server) .tooLarge ↔
    ∃ most t, Move.request request ⟨client, server, clock, held, {}⟩ =
      .error (.failed (.tooLarge most)) t := by
  constructor
  · intro h
    generalize hb : Breakdown.tooLarge = b at h
    cases h with
    | @unsent server fault t h =>
        obtain ⟨most, rfl⟩ := (ofFault_eq_tooLarge_iff fault).mp hb.symm
        exact ⟨most, t, h⟩
    | unanswered | misread => cases hb
  · rintro ⟨most, t, h⟩
    exact .unsent h

/-- A request that was sent as a whole is within the limit, whatever is answered. -/
theorem limited_of_sent (hl : request.framing.Limited) (start : ℕ) (e : Exchange) {n : ℕ}
    {t : Transfer} (hrequest : Move.request request ⟨client, server, clock, held, {}⟩ = .ok n t) :
    ∃ sent, (Closing.ofRequest request start e held client clock (some server)).Limited request
        client server (GivesUp request held client clock (some server) .tooLarge) sent ∧
      ReachesExcess request clock client server ((delivery client.script).behind held) sent := by
  obtain ⟨b, hfinds, hadmitted, heffect, hwithin⟩ := request_sent hl hrequest
  obtain ⟨left, hleft, hreceived⟩ := (keeps_respond request start { e with
    requestBody := t.captured.body?
    timing := { e.timing with send := some (t.clock.since clock.now) } } t.source t.sink
    t.clock).received
  -- the body is complete, so that none of its lines exceeds the limit
  have hnone (hframing : request.framing = .chunked) {wire line data : Bytes} {sizes : List ℕ}
      {size : ℕ} (hexceeds : Exceeds requestBodyLimit wire line sizes size data) :
      ¬ request.headBytes ++ (wire ++ line) <+: request.headBytes ++ b.wire := by
    intro hsent
    have hreached := prefix_append_right_inj _ |>.mp hsent
    rw [← append_nil b.wire] at hreached
    exact hexceeds.not_admitted (hfinds.framing_eq.trans hframing) hreached hadmitted
  refine ⟨request.headBytes ++ b.wire, ⟨⟨left, ?_, ?_⟩, hwithin, fun hframing => ?_, ?_⟩, ?_⟩
  · simp only [Closing.ofRequest, hrequest]
    exact hleft
  · rw [hreceived, heffect.received]
  · refine iff_of_false ?_ ?_
    · rw [givesUp_tooLarge_iff]
      rintro ⟨most, t', h⟩
      cases hrequest.symm.trans h
    · rintro ⟨wire, line, sizes, size, data, hexceeds, hsent⟩
      exact hnone hframing hexceeds hsent
  · intro hframing wire line sizes size data hexceeds hsent
    exact (hnone hframing hexceeds hsent).elim
  · intro hframing wire line sizes size data hexceeds hup hfit hwatch hacc
    exact ((request_exceeded hframing ⟨client, server, clock, held, {}⟩ hwatch hfit hexceeds hup
      hacc).of_ok hrequest).elim

/-- What was sent of a request that was given up is within the limit. -/
theorem limited_of_unsent (hl : request.framing.Limited) (start : ℕ) (e : Exchange) {s : Stop}
    {t : Transfer}
    (hrequest : Move.request request ⟨client, server, clock, held, {}⟩ = .error s t) :
    ∃ sent, (Closing.ofRequest request start e held client clock (some server)).Limited request
        client server (GivesUp request held client clock (some server) .tooLarge) sent ∧
      ReachesExcess request clock client server ((delivery client.script).behind held) sent := by
  obtain ⟨sent, kept, heffect, hunsent⟩ := (request_unsent hl _).of_error hrequest
  have hgives : GivesUp request held client clock (some server) .tooLarge ↔
      ∃ most, s = .failed (.tooLarge most) := by
    rw [givesUp_tooLarge_iff]
    constructor
    · rintro ⟨most, t', h⟩
      cases hrequest.symm.trans h
      exact ⟨most, rfl⟩
    · rintro ⟨most, rfl⟩
      exact ⟨most, t, hrequest⟩
  refine ⟨sent, ⟨?_, hunsent.sentWithin hl, fun hframing => hgives.trans ⟨?_, ?_⟩, ?_⟩, ?_⟩
  · cases s with
    | waiting =>
        refine ⟨t.sink, ?_, heffect.received⟩
        simp only [Closing.ofRequest, hrequest, Closing.waiting]
    | failed fault =>
        refine ⟨t.sink.close, ?_, heffect.received⟩
        simp only [Closing.ofRequest, hrequest, Closing.breakdown, Option.map_some]
  · rintro ⟨most, hs⟩
    obtain ⟨-, wire, line, sizes, size, hexceeds, rfl⟩ := hunsent.exceeds hs
    exact ⟨wire, line, sizes, size, kept, hexceeds, prefix_rfl⟩
  · rintro ⟨wire, line, sizes, size, data, hexceeds, hsent⟩
    exact ⟨_, (hunsent.of_reached hframing hexceeds hsent).1⟩
  · intro hframing wire line sizes size data hexceeds hsent
    obtain ⟨rfl, hall, rfl⟩ := hunsent.of_reached hframing hexceeds hsent
    refine ⟨hall, ?_⟩
    simp only [Closing.ofRequest, hrequest]
    exact (abandoned_breakdown .tooLarge start t.source (some t.sink) t.clock
      (heffect.body? rfl)).of_same heffect.source
  · intro hframing wire line sizes size data hexceeds hup hfit hwatch hacc
    have hall := (request_exceeded hframing ⟨client, server, clock, held, {}⟩ hwatch hfit
      hexceeds hup hacc).of_error hrequest
    exact append_cancel_left (heffect.received.symm.trans hall.received)

/-- Whatever becomes of a request, it is sent within the limit. -/
theorem limited_ofRequest (hl : request.framing.Limited) (start : ℕ) (e : Exchange) :
    ∃ sent, (Closing.ofRequest request start e held client clock (some server)).Limited request
        client server (GivesUp request held client clock (some server) .tooLarge) sent ∧
      ReachesExcess request clock client server ((delivery client.script).behind held) sent := by
  cases hrequest : Move.request request ⟨client, server, clock, held, {}⟩ with
  | ok n t => exact limited_of_sent hl start e hrequest
  | error s t => exact limited_of_unsent hl start e hrequest

end

/-! ## Connections -/

/-- Behind a server that is reached, a connection gives its exchange up if the exchange does. -/
theorem givesUp_reached_iff {servers : List Server} {request : Request} {held : Bytes}
    {client : Peer} {clock : Clock} {i : ℕ} {u : Server} {b : Breakdown} (hu : servers[i]? = some u)
    (hreach : clock.allows u.delay = true) :
    (Passage.under request held client clock (some i)).GivesUp servers b ↔
      GivesUp request held client (clock.after u.delay) (some u.peer) b := by
  refine ⟨fun h => ?_, .reached hu hreach⟩
  cases h with
  | unreached hf => cases hf.symm.trans hu
  | reached hf _ h =>
      cases hf.symm.trans hu
      exact h

theorem ofHead_tooLarge {head : Http.RequestHead} {n : ℕ}
    (hmethod : Http.Method.ofToken head.method ≠ .connect) (hn : Announces head.headers n)
    (hlarge : requestBodyLimit < n) : Request.ofHead head = .error .tooLarge := by
  obtain ⟨value, hvalue, hread⟩ := hn
  simp [Request.ofHead, hmethod, hvalue, hread, Except.toOption, hlarge]

/-- A request that announces too long a body is answered, seeks no server and is not recorded. -/
theorem refused_tooLarge (stamp : Stamp) (servers : List Server) {horizon n : ℕ}
    {client left : Peer} {raw held rest : Bytes} {woken : Clock} {head : Http.RequestHead}
    (hread : readHead client (Clock.limitedTo ⟨horizon, []⟩ headPatience) =
      (.ok (raw, held), left, woken))
    (hhead : Http.Head.request fieldLimit raw = .ok (head, rest))
    (hmethod : Http.Method.ofToken head.method ≠ .connect) (hn : Announces head.headers n)
    (hlarge : requestBodyLimit < n) :
    let p := Passage.ofClient horizon client
    p.target? = none ∧ (p.conclude stamp servers).record = none ∧
      (p.conclude stamp servers).client.received =
        client.received ++ client.accepted Refusal.tooLarge.reply.bytes := by
  intro p
  have hopening : opening client ⟨horizon, []⟩ = refuse .tooLarge left woken := by
    have hpatience : (⟨horizon, []⟩ : Clock).now + headPatience = headPatience := Nat.zero_add _
    simp only [opening, hpatience, hread, hhead, ofHead_tooLarge hmethod hn hlarge]
  have hp : p = .over (finish (left.write Refusal.tooLarge.reply.bytes).2) woken := by
    simp only [p, Passage.ofClient, hopening, refuse]
  have hheard := heard_readHead client (Clock.limitedTo ⟨horizon, []⟩ headPatience)
  rw [hread] at hheard
  rw [hp]
  refine ⟨rfl, rfl, ?_⟩
  show (finish (left.write Refusal.tooLarge.reply.bytes).2).received = _
  rw [received_finish, Peer.received_write, show left = _ from hheard.same]
  rfl

def greedyHeadBytes : Bytes :=
  Bytes.ofAscii "POST http://page/ HTTP/1.1\r\nTransfer-Encoding: chunked\r\n\r\n"

/-- The largest size that can be announced, behind one small chunk. -/
def greedyBody : Bytes := Bytes.ofAscii "2\r\nhi\r\nFFFFFFFFFFFFFFFF\r\nmore"

def greedyClient : Peer where
  script := [.arrival greedyHeadBytes, .arrival greedyBody]

def greedyRequest : Request :=
  ⟨.post, ⟨.http, "page", 80, "/"⟩, "HTTP/1.1", [("Transfer-Encoding", "chunked")], .chunked⟩

def greedyServer : Server := { host := "page", port := 80, peer := {} }

/-- What is left of the client when its request is to be forwarded. -/
def greedyLeft : Peer := { script := [.arrival greedyBody], reads := 1 }

theorem opening_greedy :
    opening greedyClient ⟨100, []⟩ = .wanted greedyRequest [] greedyLeft ⟨100, []⟩ := by
  decide +kernel

theorem exceeds_greedy : Exceeds requestBodyLimit (Bytes.ofAscii "2\r\nhi\r\n")
    (Bytes.ofAscii "FFFFFFFFFFFFFFFF\r\n") [2] 0xFFFFFFFFFFFFFFFF (Bytes.ofAscii "hi") where
  chunks := by
    have hline : AnnouncesSize (Bytes.ofAscii "2\r\n") (Bytes.ofAscii "hi").length :=
      announcesSize_iff.mpr ⟨by decide, by decide +kernel⟩
    exact .chunk hline (by decide) .nil
  announced := announcesSize_iff.mpr ⟨by decide, by decide +kernel⟩
  admitted := by decide
  beyond := by decide

end TrafficCapture.Proxy
