import TrafficCapture.Proofs.Proxy.Bound
import TrafficCapture.Proofs.Proxy.Limit
import TrafficCapture.Proofs.Proxy.Shape

/-! # Whose fault it is

An exchange with a server that was reached may be given up before the head of a response came back.
The status that it is given up with tells how far the request came: it was sent as a whole, or it
exceeds the limit, or neither. It does not tell whether the client or the server is at fault. A
server that does not take all of a complete request is answered for as if the client had not sent
it. -/

namespace TrafficCapture

open List

/-! ## Room -/

namespace Net

/-- A peer has received as much more as it has room for less. -/
def Peer.Fills (p p' : Peer) : Prop :=
  ∀ room, p.room = some room →
    ∃ room', p'.room = some room' ∧ room' + p'.received.length = room + p.received.length

theorem Peer.Fills.refl (p : Peer) : p.Fills p := fun room hroom => ⟨room, hroom, rfl⟩

theorem Peer.Fills.trans {p₁ p₂ p₃ : Peer} (h : p₁.Fills p₂) (h' : p₂.Fills p₃) : p₁.Fills p₃ := by
  intro room hroom
  obtain ⟨room₂, hroom₂, hsum⟩ := h room hroom
  obtain ⟨room₃, hroom₃, hsum'⟩ := h' room₂ hroom₂
  exact ⟨room₃, hroom₃, hsum'.trans hsum⟩

theorem Peer.fills_write (p : Peer) (bytes : Bytes) : p.Fills (p.write bytes).2 := by
  intro room hroom
  refine ⟨room - bytes.length, by simp [write, hroom], ?_⟩
  rw [received_write, length_append, accepted, hroom, length_take]
  omega

/-- What a peer received it had room for. -/
theorem Peer.Fills.accepts {p p' : Peer} {written : Bytes} (h : p.Fills p')
    (hreceived : p'.received = p.received ++ written) : p.Accepts written.length := by
  intro room hroom
  obtain ⟨room', -, hsum⟩ := h room hroom
  rw [hreceived, length_append] at hsum
  omega

end Net

namespace Proxy

open Net

theorem Line.fills_put {line : Line} {side : Side} {p : Peer} (h : (line.peer side).Fills p)
    (other : Side) : (line.peer other).Fills ((line.put side p).peer other) := by
  cases side <;> cases other <;> first | exact h | exact .refl _

/-- Whatever is said, both peers receive only what they have room for. -/
theorem Dialogue.fills_play {α : Type} (d : Dialogue α) (line : Line) (side : Side) :
    (line.peer side).Fills ((d.play line).2.peer side) := by
  induction d generalizing line with
  | done a => exact .refl _
  | read other size clock next ih =>
      have hread : (line.peer other).Fills ((line.peer other).read size clock).2.1 := .refl _
      exact (Line.fills_put hread side).trans (ih _ _ _)
  | write other bytes next ih =>
      exact (Line.fills_put (Peer.fills_write _ bytes) side).trans (ih _ _)
  | leave other next ih =>
      have hleave : (line.peer other).Fills (other.leave (line.peer other)) := by
        cases other <;> exact .refl _
      exact (Line.fills_put hleave side).trans (ih _)

theorem Move.fills_send (head : Bytes) (limit : Option ℕ) (framing : Framing) (t : Transfer) :
    t.sink.Fills (ended ((put head >>= fun _ => body limit framing) t)).2.sink := by
  let line : Line := ⟨t.source, t.sink⟩
  let spoken : Spoken .client (sendWithin (t.upcoming.bytes.length + 1) head limit framing) :=
    .sendWithin _ head limit framing
  have hplay := spoken.play_eq line t.own
  have hfills := Dialogue.fills_play (spoken.dialogue t.own) line .server
  rw [hplay] at hfills
  rw [← sendWithin_eq head limit framing t (Nat.lt_succ_self _)]
  exact hfills

/-! ## How far a request came -/

section

variable {request : Request} {held : Bytes} {client server : Peer} {clock : Clock} {s : Stop}
  {t t' : Transfer}

/-- Behind the head, only what was upcoming is sent, in order. -/
theorem prefix_of_unsent {part kept : Bytes} (h : Move.request request t = .error s t')
    (he : Effect (request.headBytes ++ part) kept t t') : part <+: t.upcoming.bytes := by
  rcases (Move.send_spec _ _ _ _).of_error h with hrefused | ⟨t₁, h₁, hlacks⟩
  · obtain ⟨front, hfront, he'⟩ := hrefused.effect
    have hsame := append_cancel_left (he.received.symm.trans he'.received)
    have hle := hfront.length_le
    rw [← hsame, length_append] at hle
    obtain rfl : part = [] := length_eq_zero_iff.mp (by omega)
    exact nil_prefix
  · obtain ⟨part', kept', he', hpart, -⟩ := hlacks.halted.effect
    have hall := he.received.symm.trans (h₁.toEffect.trans he').received
    obtain rfl := append_cancel_left (append_cancel_left hall)
    have hsame : t₁.upcoming = t.upcoming := by simpa using h₁.upcoming.symm
    rwa [hsame] at hpart

/-- The client sent a line that exceeds the limit. -/
def SentExcess (request : Request) (rest : Delivery) : Prop :=
  request.framing = .chunked ∧ ∃ wire line sizes size data,
    Exceeds requestBodyLimit wire line sizes size data ∧ wire ++ line <+: rest.bytes

theorem sentExcess_of_error (hl : request.framing.Limited) {most : ℕ}
    (h : Move.request request t = .error (.failed (.tooLarge most)) t') :
    SentExcess request t.upcoming := by
  obtain ⟨sent, kept, heffect, hunsent⟩ := (request_unsent hl t).of_error h
  obtain ⟨hframing, wire, line, sizes, size, hexceeds, rfl⟩ := hunsent.exceeds rfl
  exact ⟨hframing, wire, line, sizes, size, kept, hexceeds, prefix_of_unsent h heffect⟩

/-- Nobody who sent a line that exceeds the limit sent a body within it. -/
theorem SentExcess.not_admitted {rest : Delivery} {body : Body} (h : SentExcess request rest)
    (hb : request.framing.Finds rest body) : ¬ body.Admitted (some requestBodyLimit) := by
  obtain ⟨hframing, wire, line, sizes, size, data, hexceeds, hreached⟩ := h
  obtain ⟨behind, hbehind⟩ := hb.begins.wire_prefix
  rw [← hbehind] at hreached
  exact hexceeds.not_admitted (hb.framing_eq.trans hframing) hreached

/-- A complete request that can be moved is sent as a whole if and only if the server takes it. -/
theorem forwarded_iff_accepts {body : Body}
    (hb : request.framing.Finds ((delivery client.script).behind held) body)
    (hm : body.Movable (some requestBodyLimit)) (hw : Outlasts clock client.script) :
    Forwarded request held client clock server ↔
      server.Accepts (request.headBytes.length + body.wire.length) := by
  constructor
  · rintro ⟨n, t, -, hrun, -⟩
    obtain ⟨body', hb', -, -, ha⟩ := (Move.send_spec _ _ _ _).of_ok hrun
    obtain rfl := hb.unique hb'
    have hfills := Move.fills_send request.headBytes (some requestBodyLimit) request.framing
      ⟨client, server, clock, held, {}⟩
    rw [show (Move.put request.headBytes >>= _) _ = _ from hrun] at hfills
    rw [← length_append]
    exact hfills.accepts ha.received
  · intro haccepts
    obtain ⟨t, hrun, -⟩ := Move.send_eq_ok (t := ⟨client, server, clock, held, {}⟩) hb hm hw haccepts
    exact forwarded_of_ok hrun

end

/-! ## What an exchange is given up with -/

/-- How far a request came that was given up without the head of a response, and the status for
it. -/
inductive Attributed (request : Request) (held : Bytes) (client : Peer) (clock : Clock)
    (server : Peer) : Breakdown → Prop
  | unanswered (hforwarded : Forwarded request held client clock server)
      (hnone : ∀ head B, ¬ HeadRead request held client clock server head B) :
      Attributed request held client clock server .noResponse
  | excess (hunsent : ¬ Forwarded request held client clock server)
      (hexcess : SentExcess request ((delivery client.script).behind held)) :
      Attributed request held client clock server .tooLarge
  | unsent (hunsent : ¬ Forwarded request held client clock server) :
      Attributed request held client clock server .notForwarded

section

variable {request : Request} {held : Bytes} {client server : Peer} {clock : Clock} {b : Breakdown}

theorem GivesUp.attributed (hl : request.framing.Limited)
    (h : GivesUp request held client clock (some server) b) :
    Attributed request held client clock server b := by
  cases h with
  | @unsent _ fault t hrun =>
      have hunsent := not_forwarded hrun
      cases fault with
      | tooLarge most => exact .excess hunsent (sentExcess_of_error hl hrun)
      | _ => exact .unsent hunsent
  | unanswered hrun hr =>
      exact .unanswered (forwarded_of_ok hrun) fun _ _ => not_headRead_of_error hrun hr
  | misread hrun hr hh =>
      exact .unanswered (forwarded_of_ok hrun) fun _ _ => not_headRead_of_fault hrun hr hh

/-- Whoever gives up tells the client, and it is recorded. -/
theorem GivesUp.abandoned (h : GivesUp request held client clock (some server) b) (start : ℕ)
    (e : Exchange) : ∃ data, (Closing.ofRequest request start e held client clock
      (some server)).Abandoned b data client := by
  have heffect := Move.send_effect request.headBytes (some requestBodyLimit) request.framing
    ⟨client, server, clock, held, {}⟩
  cases h with
  | @unsent _ fault t hrun =>
      obtain ⟨_, data, hmoved⟩ := heffect.of_error hrun
      simp only [Closing.ofRequest, hrun]
      exact ⟨data, (abandoned_breakdown _ start t.source (some t.sink) t.clock
        (hmoved.body? rfl)).of_same hmoved.source⟩
  | @unanswered _ n t fault hrun hr hf =>
      obtain ⟨_, data, hmoved⟩ := heffect.of_ok hrun
      rcases hread : readHead t.sink t.clock with ⟨result, left, later⟩
      rw [hread] at hr
      obtain rfl : result = .error fault := hr
      refine ⟨data, .of_same hmoved.source ?_⟩
      cases fault <;> simp only [Closing.ofRequest, hrun, Closing.respond, hread]
      · exact abandoned_breakdown _ start t.source _ _ (hmoved.body? rfl)
      · exact abandoned_breakdown _ start t.source _ _ (hmoved.body? rfl)
      · exact (hf rfl).elim
  | @misread _ n t raw behind fault hrun hr hh =>
      obtain ⟨_, data, hmoved⟩ := heffect.of_ok hrun
      rcases hread : readHead t.sink t.clock with ⟨result, left, later⟩
      rw [hread] at hr
      obtain rfl : result = .ok (raw, behind) := hr
      refine ⟨data, .of_same hmoved.source ?_⟩
      simp only [Closing.ofRequest, hrun, Closing.respond, hread, hh]
      exact abandoned_breakdown _ start t.source _ _ (hmoved.body? rfl)

theorem Attributed.status_eq_iff (h : Attributed request held client clock server b) :
    b.reply.status = 502 ↔ Forwarded request held client clock server := by
  cases h with
  | unanswered hforwarded => exact iff_of_true rfl hforwarded
  | excess hunsent | unsent hunsent => exact iff_of_false (by decide) hunsent

/-- A client that sent a complete request is told that it did not, unless the server took it. -/
theorem Attributed.complete (h : Attributed request held client clock server b) {body : Body}
    (hb : request.framing.Finds ((delivery client.script).behind held) body)
    (hm : body.Movable (some requestBodyLimit)) (hw : Outlasts clock client.script) :
    (b.reply.status = 502 ↔ server.Accepts (request.headBytes.length + body.wire.length)) ∧
      (b.reply.status = 400 ↔
        ¬ server.Accepts (request.headBytes.length + body.wire.length)) := by
  rw [← forwarded_iff_accepts hb hm hw]
  refine ⟨h.status_eq_iff, ?_⟩
  cases h with
  | unanswered hforwarded => exact iff_of_false (by decide) (not_not_intro hforwarded)
  | excess _ hexcess => exact (hexcess.not_admitted hb hm.admitted).elim
  | unsent hunsent => exact iff_of_true rfl hunsent

end

/-- An exchange with a server that was reached is given up before the head of a response came back:
the client is told and the exchange recorded with one status. It is 502 if and only if the request
was sent as a whole, and 413 only if the client exceeded the limit. If the request of the client is
not complete it is 400 or 413. If it is complete, it is 502 if the server takes all of it, and
else 400. -/
theorem breakdown_attributed (stamp : Stamp) {servers : List Server} {i horizon : ℕ} {u : Server}
    {client left : Peer} {request : Request} {held : Bytes} {clock : Clock} {b : Breakdown}
    (h : opening client ⟨horizon, []⟩ = .wanted request held left clock)
    (hu : servers[i]? = some u) (hreach : clock.allows u.delay = true)
    (hb : (Passage.under request held left clock (some i)).GivesUp servers b) :
    let closing := Passage.conclude stamp servers (.under request held left clock (some i))
    ∃ raw, ∃ rest : Delivery, Bytes.EndsAtFirst Bytes.headEnd raw ∧
      delivery client.script = rest.behind raw ∧
      (∃ data, closing.Abandoned b data client) ∧
      (b.reply.status = 502 ↔ Forwarded request held left (clock.after u.delay) u.peer) ∧
      (b.reply.status = 413 → SentExcess request rest) ∧
      ((∀ body, request.framing.Finds rest body → ¬ body.Admitted (some requestBodyLimit)) →
        b.reply.status = 400 ∨ b.reply.status = 413) ∧
      ∀ body, request.framing.Finds rest body → body.Movable (some requestBodyLimit) →
        waits client.script + u.delay ≤ horizon →
          (b.reply.status = 502 ↔
            u.peer.Accepts (request.headBytes.length + body.wire.length)) ∧
          (b.reply.status = 400 ↔
            ¬ u.peer.Accepts (request.headBytes.length + body.wire.length)) := by
  intro closing
  obtain ⟨raw, haccepted⟩ := accepted_of_opening h
  obtain ⟨head, -, -, hof⟩ := haccepted.read
  have hgives := (givesUp_reached_iff hu hreach).mp hb
  have hattributed := hgives.attributed (Request.of_ofHead hof).limited
  have hclosing : closing = Closing.ofRequest request 0 { request.exchange with
      id := stamp.id
      timing := { startedAt := stamp.acceptedAt + Int64.ofNat clock.now } }
      held left (clock.after u.delay) (some u.peer) := by
    simp only [closing, Passage.conclude, Option.bind_some, hu, hreach, if_true]
  refine ⟨raw, (delivery left.script).behind held, haccepted.ends, ?_, ?_,
    hattributed.status_eq_iff, ?_, ?_, fun body hfinds hm hw => ?_⟩
  · rw [haccepted.delivered, Delivery.behind_behind]
  · obtain ⟨data, habandoned⟩ := hgives.abandoned 0 _
    rw [hclosing]
    exact ⟨data, habandoned.of_same haccepted.heard.same⟩
  · intro hstatus
    cases hattributed with
    | excess _ hexcess => exact hexcess
    | unanswered | unsent => cases hstatus
  · intro hnone
    cases hattributed with
    | excess => exact .inr rfl
    | unsent => exact .inl rfl
    | unanswered hforwarded =>
        obtain ⟨n, t, -, hrun, -⟩ := hforwarded
        obtain ⟨body, hfinds, hadmitted, -⟩ := (Move.send_spec _ _ _ _).of_ok hrun
        exact (hnone body hfinds hadmitted).elim
  · have hnow : clock.now + waits left.script = waits client.script := by
      simpa [Clock.now] using haccepted.heard.time.waits
    have hhorizon : clock.horizon = horizon := haccepted.heard.time.horizon
    refine hattributed.complete hfinds hm ?_
    simp only [Outlasts, Clock.after_now, Clock.after_horizon]
    omega

/-! ## A server that takes nothing -/

/-- A client whose request is complete. -/
def plainClient : Peer where
  script := [.arrival (Bytes.ofAscii "GET http://page/ HTTP/1.1\r\n\r\n")]

/-- A server that can be reached but takes no bytes. -/
def stuckServer : Server := { host := "page", port := 80, peer := { room := some 0 } }

/-- The client is told that the body of its request could not be read. -/
theorem breakdown_attributed_stuck :
    let closing := Passage.conclude ⟨"0", 0⟩ [stuckServer]
      (.under pageRequest [] { reads := 1 } ⟨100, []⟩ (some 0))
    (∃ data, closing.Abandoned .notForwarded data plainClient) ∧
      Breakdown.notForwarded.reply.status = 400 := by
  intro closing
  have hopening : opening plainClient ⟨100, []⟩ =
      .wanted pageRequest [] { reads := 1 } ⟨100, []⟩ := by decide +kernel
  have hu : [stuckServer][0]? = some stuckServer := rfl
  have hreach : Clock.allows ⟨100, []⟩ stuckServer.delay = true := rfl
  have hgives : GivesUp pageRequest [] { reads := 1 } ⟨100, []⟩ (some stuckServer.peer)
      .notForwarded := by
    have hrun : Move.request pageRequest ⟨{ reads := 1 }, stuckServer.peer, ⟨100, []⟩, [], {}⟩ =
        .error (.failed .writeFailed)
          ⟨{ reads := 1 }, { room := some 0, writes := [[]] }, ⟨100, []⟩, [], {}⟩ := rfl
    exact .unsent hrun
  obtain ⟨raw, rest, -, -, habandoned, -, -, -, hcomplete⟩ :=
    breakdown_attributed ⟨"0", 0⟩ hopening hu hreach ((givesUp_reached_iff hu hreach).mpr hgives)
  have hb : pageRequest.framing.Finds rest .empty := ⟨rfl, trivial⟩
  have hm : Body.empty.Movable (some requestBodyLimit) := ⟨by decide, trivial⟩
  refine ⟨habandoned, (hcomplete _ hb hm (by decide)).2.mpr fun haccepts => ?_⟩
  exact absurd (haccepts 0 rfl) (by decide +kernel)

end Proxy

end TrafficCapture
