import TrafficCapture.Proofs.Proxy.Alike
import TrafficCapture.Proofs.Proxy.Head

/-! # Connections side by side

Two connections of the proxy whose peers deliver the same bytes, cut in different ways. Where every
head and every line of a chunked body is short enough to be waited for, the connections come to the
same end, with the same record. -/

namespace TrafficCapture

/-- An exchange without its marks: its number, its identifier and the time when it began. -/
def Exchange.unmarked (e : Exchange) : Exchange :=
  { e with sequence := 0, id := "", timing := { e.timing with startedAt := 0 } }

namespace Net

/-- The peers deliver the same without delay and up to the end of their streams, and nothing else
tells them apart either. -/
structure Peer.Recut (p p' : Peer) : Prop extends p.Agrees p' where
  delivers : delivery p.script = delivery p'.script
  ended : (delivery p.script).ending = .ended
  still : waits p.script = 0
  still' : waits p'.script = 0

theorem Peer.Agrees.write {p p' : Peer} (h : p.Agrees p') (bytes : Bytes) :
    (p.write bytes).1 = true ∧ (p'.write bytes).1 = true ∧
      (p.write bytes).2.Agrees (p'.write bytes).2 := by
  have hreceived := h.received
  unfold Peer.received at hreceived
  simp only [Peer.write, h.takes, h.takes', true_and]
  refine ⟨?_, h.shutDown, h.closed, rfl, rfl⟩
  simp [Peer.received, hreceived]

theorem Peer.Agrees.close {p p' : Peer} (h : p.Agrees p') : p.close.Agrees p'.close :=
  ⟨h.received, h.shutDown, rfl, h.takes, h.takes'⟩

theorem Clock.Agrees.since {c c' : Clock} (h : c.Agrees c') (start : ℕ) :
    c.since start = c'.since start := by
  unfold Clock.since
  rw [h.now]

theorem Clock.Agrees.after {c c' : Clock} (h : c.Agrees c') (ms : ℕ) :
    (c.after ms).Agrees (c'.after ms) := by
  refine ⟨?_, ?_⟩
  · rw [Clock.after_now, Clock.after_now, h.now]
  · rw [Clock.after_horizon, Clock.after_horizon, h.horizon]

end Net

namespace Proxy

open Net List

theorem agrees_finish {p p' : Peer} (h : p.Agrees p') : (finish p).Agrees (finish p') :=
  ⟨h.received, rfl, rfl, h.takes, h.takes'⟩

/-! ## Heads -/

/-- Two peers that were read from, and what was read but not used yet: the same is upcoming. -/
structure Ahead (held held' : Bytes) (p p' : Peer) (c c' : Clock) : Prop where
  agrees : p.Agrees p'
  clock : c.Agrees c'
  upcoming : (delivery p.script).behind held = (delivery p'.script).behind held'
  ended : (delivery p.script).ending = .ended
  still : waits p.script = 0
  still' : waits p'.script = 0
  watched : c.now ≤ c.horizon

section

variable {held held' : Bytes} {p p' q q' : Peer} {c c' : Clock}

theorem Ahead.of_recut (h : p.Recut p') (hc : c.Agrees c') (hw : c.now ≤ c.horizon) :
    Ahead [] [] p p' c c' :=
  ⟨h.toAgrees, hc, h.delivers, h.ended, h.still, h.still', hw⟩

theorem Ahead.symm (h : Ahead held held' p p' c c') : Ahead held' held p' p c' c where
  agrees := h.agrees.symm
  clock := h.clock.symm
  upcoming := h.upcoming.symm
  ended := by
    have hsame := congrArg Delivery.ending h.upcoming
    exact hsame.symm.trans h.ended
  still := h.still'
  still' := h.still
  watched := by
    rw [← h.clock.now, ← h.clock.horizon]
    exact h.watched

theorem Ahead.steady (h : Ahead held held' p p' c c') (hq : q.room = none) :
    Transfer.Steady ⟨p, q, c, held, {}⟩ :=
  ⟨h.ended, h.still, h.watched, hq⟩

/-- Transfers from such peers are alike. -/
theorem Ahead.alike (h : Ahead held held' p p' c c') (hq : q.Agrees q') :
    Transfer.Alike ⟨p, q, c, held, {}⟩ ⟨p', q', c', held', {}⟩ where
  source := h.agrees
  sink := hq
  clock := h.clock
  kept := rfl
  space := rfl
  upcoming := h.upcoming
  steady := h.steady hq.takes
  steady' := h.symm.steady hq.takes'

/-- The bytes do not begin with a head that, with its end, is too long to be waited for. -/
def HeadFits (bytes : Bytes) : Prop :=
  ∀ raw rest, bytes = raw ++ rest → Bytes.EndsAtFirst Bytes.headEnd raw → raw.length ≤ headLimit

/-- From two peers that deliver the same, one head is read, or none from either. -/
inductive HeadsAlike (d : Delivery) : Except HeadFault (Bytes × Bytes) × Peer × Clock →
    Except HeadFault (Bytes × Bytes) × Peer × Clock → Prop where
  | read {raw held held' : Bytes} {p p' : Peer} {c c' : Clock} (h : Ahead held held' p p' c c')
      (ends : Bytes.EndsAtFirst Bytes.headEnd raw)
      (delivered : d = ((delivery p.script).behind held).behind raw) :
      HeadsAlike d (.ok (raw, held), p, c) (.ok (raw, held'), p', c')
  | refused {fault fault' : HeadFault} {p p' : Peer} {c c' : Clock} (h : p.Agrees p')
      (hc : c.Agrees c') (hf : fault ≠ .waiting) (hf' : fault' ≠ .waiting) :
      HeadsAlike d (.error fault, p, c) (.error fault', p', c')

/-- From such a peer, only a head that is too long or never whole is not read. -/
theorem Ahead.refused (h : Ahead [] [] p p' c c') {fault : HeadFault} {left : Peer} {later : Clock}
    (hread : readHead p c = (.error fault, left, later)) :
    fault ≠ .waiting ∧ ∀ raw rest, (delivery p.script).bytes = raw ++ rest →
      Bytes.EndsAtFirst Bytes.headEnd raw → headLimit < raw.length := by
  have hw : Outlasts c p.script := by
    unfold Outlasts
    rw [h.still]
    exact h.watched
  have hstop := readHead_stop hread
  refine ⟨fun hwaiting => ?_, fun raw rest => hstop.long hw rest⟩
  have hsilent := hstop.silent hwaiting hw
  rw [h.ended] at hsilent
  cases hsilent

/-- A head that is short enough is not read from one of two such peers alone. -/
theorem Ahead.not_refused (h : Ahead [] [] p p' c c') (hfits : HeadFits (delivery p.script).bytes)
    {raw : Bytes} {left left' : Peer} {later later' : Clock} {fault : HeadFault}
    (hread : readHead p c = (.ok (raw, held), left, later))
    (hread' : readHead p' c' = (.error fault, left', later')) : False := by
  have hraw := endsAtFirst_of_readHead hread
  have hall := congrArg Delivery.bytes (delivery_of_readHead hread)
  rw [Delivery.behind_bytes, append_assoc] at hall
  have hshort := hfits raw _ hall hraw
  have hsame : delivery p.script = delivery p'.script := h.upcoming
  rw [hsame] at hall
  have hlong := (h.symm.refused hread').2 raw _ hall hraw
  omega

theorem readHead_alike (h : Ahead [] [] p p' c c') (hfits : HeadFits (delivery p.script).bytes) :
    HeadsAlike (delivery p.script) (readHead p c) (readHead p' c') := by
  have hsame : delivery p.script = delivery p'.script := h.upcoming
  have hheard := heard_readHead p c
  have hheard' := heard_readHead p' c'
  rcases hread : readHead p c with ⟨result, q, k⟩
  rcases hread' : readHead p' c' with ⟨result', q', k'⟩
  rw [hread] at hheard
  rw [hread'] at hheard'
  have hagrees : q.Agrees q' := h.agrees.of_same hheard.same hheard'.same
  have hstill := hheard.time.still h.still
  have hstill' := (hheard'.time.still h.still').1
  have hclock : k.Agrees k' := h.clock.of_still hheard.time hheard'.time h.still h.still'
  cases result with
  | error fault =>
      cases result' with
      | error fault' =>
          exact .refused hagrees hclock (h.refused hread).1 (h.symm.refused hread').1
      | ok cut' => exact (h.symm.not_refused (hsame ▸ hfits) hread' hread).elim
  | ok cut =>
      cases result' with
      | error fault' => exact (h.not_refused hfits hread hread').elim
      | ok cut' =>
          obtain ⟨raw, held⟩ := cut
          obtain ⟨raw', held'⟩ := cut'
          have hraw := endsAtFirst_of_readHead hread
          have hraw' := endsAtFirst_of_readHead hread'
          have hall := delivery_of_readHead hread
          have hall' := delivery_of_readHead hread'
          rw [← Delivery.behind_behind] at hall
          rw [← Delivery.behind_behind, ← hsame, hall] at hall'
          obtain ⟨rfl, -⟩ := hraw.unique hraw' headEnd_ne_nil (congrArg Delivery.bytes hall')
          refine .read ⟨hagrees, hclock, Delivery.behind_injective raw hall', ?_, hstill.1,
            hstill', ?_⟩ hraw hall
          · have hending := congrArg Delivery.ending hall
            exact hending.symm.trans h.ended
          · rw [hstill.2, hheard.time.horizon]
            exact h.watched

end

/-! ## Openings -/

/-- The head of a request that is to be forwarded. -/
def Asks (raw : Bytes) (request : Request) : Prop :=
  ∃ head rest, Http.Head.request fieldLimit raw = .ok (head, rest) ∧
    Request.ofHead head = .ok request

/-- The request that the bytes of a client begin with. -/
def Requests (bytes : Bytes) (request : Request) : Prop :=
  ∃ raw rest, bytes = raw ++ rest ∧ Bytes.EndsAtFirst Bytes.headEnd raw ∧ Asks raw request

/-- The head of a request that is to be forwarded, and the framing of the body behind it. -/
def RequestFrames (raw : Bytes) (framing : Framing) : Prop :=
  ∃ request, Asks raw request ∧ request.framing = framing

/-- The head of a response to the request, and the framing of the body behind it. -/
def ResponseFrames (request : Request) (raw : Bytes) (framing : Framing) : Prop :=
  ∃ head rest, Http.Head.response fieldLimit raw = .ok (head, rest) ∧
    Framing.ofResponse (request.method == .head) head.status head.headers = framing

/-- A head that is short enough to be waited for, and behind it a body of which the same is true of
every line. -/
structure Fits (frames : Bytes → Framing → Prop) (bytes : Bytes) : Prop where
  head : HeadFits bytes
  body : ∀ raw rest framing, bytes = raw ++ rest → Bytes.EndsAtFirst Bytes.headEnd raw →
    frames raw framing → Move.FramingFits framing rest

/-- A stream that is not longer than a head may be fits, whatever is in it. -/
theorem fits_of_length_le {frames : Bytes → Framing → Prop} {bytes : Bytes}
    (h : bytes.length ≤ headLimit) : Fits frames bytes where
  head := by
    rintro raw rest rfl -
    rw [length_append] at h
    omega
  body := by
    rintro raw rest framing rfl - - - line hmeets
    have hle := hmeets.length_le
    have hlimits : headLimit = Move.lineLimit := rfl
    rw [length_append] at h
    omega

/-- Two connections have come to the same when a server is sought. -/
inductive OpeningsAlike (bytes : Bytes) : Opening → Opening → Prop where
  | over {p p' : Peer} {c c' : Clock} (h : p.Agrees p') (hc : c.Agrees c') :
      OpeningsAlike bytes (.over p c) (.over p' c')
  | wanted {request : Request} {held held' : Bytes} {p p' : Peer} {c c' : Clock}
      (h : Ahead held held' p p' c c') (requests : Requests bytes request)
      (fits : Move.FramingFits request.framing (held ++ (delivery p.script).bytes)) :
      OpeningsAlike bytes (.wanted request held p c) (.wanted request held' p' c')

section

variable {p p' : Peer} {c c' : Clock}

theorem refuse_alike (bytes : Bytes) (refusal : Refusal) (h : p.Agrees p') (hc : c.Agrees c') :
    OpeningsAlike bytes (refuse refusal p c) (refuse refusal p' c') :=
  .over (agrees_finish (h.write refusal.reply.bytes).2.2) hc

theorem opening_of_error {fault : HeadFault} {left : Peer} {woken : Clock}
    (hread : readHead p (c.limitedTo (c.now + headPatience)) = (.error fault, left, woken))
    (hf : fault ≠ .waiting) : opening p c = refuse .unreadable left woken := by
  unfold opening
  rw [hread]
  cases fault with
  | waiting => exact (hf rfl).elim
  | failed => rfl
  | tooLong => rfl

theorem opening_alike (h : p.Recut p') (hc : c.Agrees c') (hw : c.now ≤ c.horizon)
    (hfits : Fits RequestFrames (delivery p.script).bytes) :
    OpeningsAlike (delivery p.script).bytes (opening p c) (opening p' c') := by
  have hlimited : (c.limitedTo (c.now + headPatience)).Agrees
      (c'.limitedTo (c'.now + headPatience)) := by
    refine ⟨hc.now, ?_⟩
    simp only [Clock.limitedTo, hc.now, hc.horizon]
  have hwatched : (c.limitedTo (c.now + headPatience)).now ≤
      (c.limitedTo (c.now + headPatience)).horizon :=
    Nat.le_min.mpr ⟨hw, Nat.le_add_right _ _⟩
  have hheads := readHead_alike (.of_recut h hlimited hwatched) hfits.head
  have htime := (heard_readHead p (c.limitedTo (c.now + headPatience))).time
  rcases hread : readHead p (c.limitedTo (c.now + headPatience)) with ⟨result, q, k⟩
  rcases hread' : readHead p' (c'.limitedTo (c'.now + headPatience)) with ⟨result', q', k'⟩
  rw [hread, hread'] at hheads
  rw [hread] at htime
  cases hheads with
  | refused hagrees hk hf hf' =>
      rw [opening_of_error hread hf, opening_of_error hread' hf']
      exact refuse_alike _ _ hagrees hk
  | read hahead ends delivered =>
      rename_i raw held held'
      have hbytes := congrArg Delivery.bytes delivered
      unfold opening
      simp only [hread, hread']
      cases hhead : Http.Head.request fieldLimit raw with
      | error fault => exact refuse_alike _ _ hahead.agrees hahead.clock
      | ok found =>
          obtain ⟨head, rest⟩ := found
          cases hof : Request.ofHead head with
          | error refusal =>
              simp only [hof]
              exact refuse_alike _ _ hahead.agrees hahead.clock
          | ok request =>
              simp only [hof]
              have hasks : Asks raw request := ⟨head, rest, hhead, hof⟩
              have hwoken : k.now ≤ c.horizon := by
                refine hahead.watched.trans ?_
                rw [htime.horizon]
                exact Nat.min_le_left _ _
              exact .wanted ⟨hahead.agrees, ⟨hahead.clock.now, hc.horizon⟩, hahead.upcoming,
                hahead.ended, hahead.still, hahead.still', hwoken⟩
                ⟨raw, _, hbytes, ends, hasks⟩
                (hfits.body raw _ _ hbytes ends ⟨request, hasks, rfl⟩)

end

/-! ## Closings -/

/-- Two connections have come to the same end. -/
structure ClosingsAlike (c c' : Closing) : Prop where
  client : c.client.Agrees c'.client
  server : Option.Rel Peer.Agrees c.server c'.server
  record : c.record.map Exchange.unmarked = c'.record.map Exchange.unmarked
  clock : c.clock.Agrees c'.clock

section

variable {e e' : Exchange} {client client' server server' : Peer} {clock clock' : Clock}
  {held held' : Bytes}

theorem waiting_alike (hp : client.Agrees client') (hs : server.Agrees server')
    (hc : clock.Agrees clock') :
    ClosingsAlike (Closing.waiting client server clock) (Closing.waiting client' server' clock') :=
  ⟨hp, .some hs, rfl, hc⟩

theorem breakdown_alike (b : Breakdown) (start : ℕ) {server server' : Option Peer}
    (he : e.unmarked = e'.unmarked) (hp : client.Agrees client')
    (hs : Option.Rel Peer.Agrees server server') (hc : clock.Agrees clock') :
    ClosingsAlike (Closing.breakdown b start e client server clock)
      (Closing.breakdown b start e' client' server' clock') := by
  obtain ⟨htaken, htaken', hleft⟩ := hp.write b.reply.bytes
  rcases hwrite : client.write b.reply.bytes with ⟨taken, left⟩
  rcases hwrite' : client'.write b.reply.bytes with ⟨taken', left'⟩
  rw [hwrite] at htaken hleft
  rw [hwrite'] at htaken' hleft
  obtain rfl : taken = true := htaken
  obtain rfl : taken' = true := htaken'
  simp only [Closing.breakdown, hwrite, hwrite', if_true]
  refine ⟨agrees_finish hleft, ?_, ?_, hc⟩
  · cases hs with
    | none => exact .none
    | some hs => exact .some hs.close
  · rw [hc.since]
    let given (x : Exchange) : Exchange :=
      { x.fail b.reply.status b.reason b.note with
        timing := { x.timing with total := some (clock'.since start) } }
    exact congrArg (fun x => some (given x)) he

theorem answered_eq (start : ℕ) (e : Exchange) (head : Http.ResponseHead) {t t' : Transfer}
    (hc : clock.Agrees clock') (h : t.Agrees t') :
    Closing.answered start e head clock t = Closing.answered start e head clock' t' := by
  unfold Closing.answered
  rw [h.body?, hc.now, h.clock.since, h.clock.since]

theorem relay_alike (request : Request) (start : ℕ) (head : Http.ResponseHead)
    (he : e.unmarked = e'.unmarked) (hp : client.Agrees client')
    (hs : Ahead held held' server server' clock clock')
    (hfits : Move.FramingFits
      (Framing.ofResponse (request.method == .head) head.status head.headers)
      (held ++ (delivery server.script).bytes)) :
    ClosingsAlike (Closing.relay request start e head held client server clock)
      (Closing.relay request start e' head held' client' server' clock') := by
  have hanswered (t t' : Transfer) (h : t.Agrees t') :
      (Closing.answered start e head clock t).unmarked =
        (Closing.answered start e' head clock' t').unmarked := by
    rw [answered_eq start e head hs.clock h]
    exact congrArg (fun x => Closing.answered start x head clock' t') he
  have hsend : Move.EndAlike
      (Move.response head
        (Framing.ofResponse (request.method == .head) head.status head.headers)
        ⟨server, client, clock, held, {}⟩)
      (Move.response head
        (Framing.ofResponse (request.method == .head) head.status head.headers)
        ⟨server', client', clock', held', {}⟩) :=
    Move.send_lockstep (responseHeadBytes head) none _ (hs.alike hp) hfits
  rcases hsend.cases_run with ⟨n, t, t', hrun, hrun', h⟩ | ⟨cause, t, t', hrun, hrun', h⟩
  · have h := h.toAgrees
    simp only [Closing.relay, hrun, hrun']
    refine ⟨agrees_finish h.sink, .some h.source.close, ?_, h.clock⟩
    exact congrArg (fun x => some { x with responseSize := some (UInt64.ofNat n) })
      (hanswered _ _ h)
  · cases cause with
    | waiting =>
        simp only [Closing.relay, hrun, hrun']
        exact waiting_alike h.sink h.source h.clock
    | failed fault =>
        simp only [Closing.relay, hrun, hrun']
        refine ⟨agrees_finish h.sink, .some h.source.close, ?_, h.clock⟩
        exact congrArg (fun x => some (x.fail 502 "Failed to relay response"
          ("Response body relay failed: " ++ fault.message))) (hanswered _ _ h)

theorem respond_of_error (request : Request) (start : ℕ) (e : Exchange) {fault : HeadFault}
    {later : Clock} (hread : readHead server clock = (.error fault, server', later))
    (hf : fault ≠ .waiting) : Closing.respond request start e client server clock =
      Closing.breakdown .noResponse start e client (some server') later := by
  unfold Closing.respond
  rw [hread]
  cases fault with
  | waiting => exact (hf rfl).elim
  | failed => rfl
  | tooLong => rfl

theorem respond_alike (request : Request) (start : ℕ) (he : e.unmarked = e'.unmarked)
    (hp : client.Agrees client') (hs : Ahead [] [] server server' clock clock')
    (hfits : Fits (ResponseFrames request) (delivery server.script).bytes) :
    ClosingsAlike (Closing.respond request start e client server clock)
      (Closing.respond request start e' client' server' clock') := by
  have hheads := readHead_alike hs hfits.head
  rcases hread : readHead server clock with ⟨result, left, later⟩
  rcases hread' : readHead server' clock' with ⟨result', left', later'⟩
  rw [hread, hread'] at hheads
  cases hheads with
  | refused hagrees hk hf hf' =>
      rw [respond_of_error request start e hread hf, respond_of_error request start e' hread' hf']
      exact breakdown_alike .noResponse start he hp (.some hagrees) hk
  | read hahead ends delivered =>
      rename_i raw held held'
      have hbytes := congrArg Delivery.bytes delivered
      unfold Closing.respond
      simp only [hread, hread']
      cases hhead : Http.Head.response fieldLimit raw with
      | error fault =>
          exact breakdown_alike .noResponse start he hp (.some hahead.agrees) hahead.clock
      | ok found =>
          obtain ⟨head, rest⟩ := found
          have hwait : later.since clock.now = later'.since clock'.now := by
            rw [hs.clock.now, hahead.clock.since]
          simp only [hwait]
          have hunmarked := congrArg (fun x : Exchange =>
            { x with timing := { x.timing with wait := some (later'.since clock'.now) } }) he
          exact relay_alike request start head hunmarked hp hahead
            (hfits.body raw _ _ hbytes ends ⟨head, rest, hhead, rfl⟩)

/-- A request that was sent left its server unread. -/
theorem ahead_of_sent {request : Request} (hs : server.Recut server') {n n' : ℕ} {t t' : Transfer}
    (h : t.Alike t') (hrun : Move.request request ⟨client, server, clock, held, {}⟩ = .ok n t)
    (hrun' : Move.request request ⟨client', server', clock', held', {}⟩ = .ok n' t') :
    Ahead [] [] t.sink t'.sink t.clock t'.clock ∧ t.sink.script = server.script := by
  obtain ⟨_, _, heffect⟩ := (Move.send_effect _ _ _ _).of_ok hrun
  obtain ⟨_, _, heffect'⟩ := (Move.send_effect _ _ _ _).of_ok hrun'
  have hscript : t.sink.script = server.script := by rw [heffect.sink]
  have hscript' : t'.sink.script = server'.script := by rw [heffect'.sink]
  refine ⟨⟨h.sink, h.clock, ?_, ?_, ?_, ?_, h.steady.watched⟩, hscript⟩
  · rw [hscript, hscript', hs.delivers]
  · rw [hscript]
    exact hs.ended
  · rw [hscript]
    exact hs.still
  · rw [hscript']
    exact hs.still'

/-- From the request on, connections come to the same end. -/
theorem ofRequest_alike (request : Request) (start : ℕ) {reached reached' : Option Peer}
    (he : e.unmarked = e'.unmarked) (hp : Ahead held held' client client' clock clock')
    (hr : Option.Rel Peer.Recut reached reached')
    (hbody : Move.FramingFits request.framing (held ++ (delivery client.script).bytes))
    (hfits : ∀ server, reached = some server →
      Fits (ResponseFrames request) (delivery server.script).bytes) :
    ClosingsAlike (Closing.ofRequest request start e held client clock reached)
      (Closing.ofRequest request start e' held' client' clock' reached') := by
  cases hr with
  | none => exact breakdown_alike .unreachable start he hp.agrees .none hp.clock
  | some hs =>
      rename_i server server'
      have hsend : Move.EndAlike (Move.request request ⟨client, server, clock, held, {}⟩)
          (Move.request request ⟨client', server', clock', held', {}⟩) :=
        Move.send_lockstep request.headBytes (some requestBodyLimit) request.framing
          (hp.alike hs.toAgrees) hbody
      rcases hsend.cases_run with ⟨n, t, t', hrun, hrun', h⟩ | ⟨cause, t, t', hrun, hrun', h⟩
      · obtain ⟨hahead, hscript⟩ := ahead_of_sent hs h hrun hrun'
        have hserver : Fits (ResponseFrames request) (delivery t.sink.script).bytes := by
          rw [hscript]
          exact hfits server rfl
        have hsent : t.clock.since clock.now = t'.clock.since clock'.now := by
          rw [hp.clock.now, h.clock.since]
        simp only [Closing.ofRequest, hrun, hrun', h.body?, hsent]
        refine respond_alike request start ?_ h.source hahead hserver
        exact congrArg (fun x : Exchange => { x with
          requestBody := t'.captured.body?
          timing := { x.timing with send := some (t'.clock.since clock'.now) } }) he
      · cases cause with
        | waiting =>
            simp only [Closing.ofRequest, hrun, hrun']
            exact waiting_alike h.source h.sink h.clock
        | failed fault =>
            simp only [Closing.ofRequest, hrun, hrun', h.body?]
            refine breakdown_alike _ start ?_ h.source (.some h.sink) h.clock
            exact congrArg (fun x : Exchange => { x with requestBody := t'.captured.body? }) he

end

end Proxy

end TrafficCapture
