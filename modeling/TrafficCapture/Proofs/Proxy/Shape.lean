import TrafficCapture.Proofs.Proxy.Acceptance
import TrafficCapture.Proofs.Proxy.Service

/-! # The shape of records

A record is filled in along the way of its exchange, which may end at any point. What is set in it
tells how far the exchange came, whatever the peers do. -/

namespace TrafficCapture.Proxy

open Net List

/-! ## How far an exchange comes -/

/-- The request is sent on as a whole: its head, and the body that its framing finds. -/
def Forwarded (request : Request) (held : Bytes) (client : Peer) (clock : Clock) (server : Peer) :
    Prop :=
  ∃ n t b, Move.request request ⟨client, server, clock, held, {}⟩ = .ok n t ∧
    request.framing.Finds ((delivery client.script).behind held) b ∧
      t.sink.received = server.received ++ request.headBytes ++ b.wire

/-- The head of a response comes back, and `B` is what the server delivers behind it. -/
def HeadRead (request : Request) (held : Bytes) (client : Peer) (clock : Clock) (server : Peer)
    (head : Http.ResponseHead) (B : Delivery) : Prop :=
  ∃ t raw, Answers request held client clock server t raw head B

section

variable {request : Request} {held : Bytes} {client server : Peer} {clock : Clock} {n : ℕ}
  {t : Transfer} {head : Http.ResponseHead} {B : Delivery}

theorem forwarded_of_ok (h : Move.request request ⟨client, server, clock, held, {}⟩ = .ok n t) :
    Forwarded request held client clock server := by
  obtain ⟨b, hb, -, -, hadv⟩ := (Move.send_spec _ _ _ _).of_ok h
  exact ⟨n, t, b, h, hb, by rw [hadv.received, append_assoc]⟩

theorem not_forwarded {s : Stop}
    (h : Move.request request ⟨client, server, clock, held, {}⟩ = .error s t) :
    ¬ Forwarded request held client clock server := by
  rintro ⟨_, _, _, hdone, -⟩
  cases h.symm.trans hdone

theorem HeadRead.forwarded (h : HeadRead request held client clock server head B) :
    Forwarded request held client clock server := by
  obtain ⟨t, raw, hanswers⟩ := h
  obtain ⟨n, hsent⟩ := hanswers.sent
  exact forwarded_of_ok hsent

/-- No head comes back that could not be read. -/
theorem not_headRead_of_error {fault : HeadFault}
    (h : Move.request request ⟨client, server, clock, held, {}⟩ = .ok n t)
    (hr : (readHead t.sink t.clock).1 = .error fault) :
    ¬ HeadRead request held client clock server head B := by
  rintro ⟨t', raw, hanswers⟩
  obtain ⟨_, hsent⟩ := hanswers.sent
  cases h.symm.trans hsent
  obtain ⟨behind, hcame⟩ := hanswers.came
  cases hr.symm.trans hcame

/-- No head comes back that could not be understood. -/
theorem not_headRead_of_fault {raw behind : Bytes} {fault : Http.Head.Fault}
    (h : Move.request request ⟨client, server, clock, held, {}⟩ = .ok n t)
    (hr : (readHead t.sink t.clock).1 = .ok (raw, behind))
    (hh : Http.Head.response fieldLimit raw = .error fault) :
    ¬ HeadRead request held client clock server head B := by
  rintro ⟨t', raw', hanswers⟩
  obtain ⟨_, hsent⟩ := hanswers.sent
  cases h.symm.trans hsent
  obtain ⟨behind', hcame⟩ := hanswers.came
  cases hr.symm.trans hcame
  obtain ⟨rest, hunderstood⟩ := hanswers.understood
  cases hh.symm.trans hunderstood

theorem headRead_of_ok {raw behind rest : Bytes} {server' : Peer} {later : Clock}
    (h : Move.request request ⟨client, server, clock, held, {}⟩ = .ok n t)
    (hr : readHead t.sink t.clock = (.ok (raw, behind), server', later))
    (hh : Http.Head.response fieldLimit raw = .ok (head, rest)) :
    HeadRead request held client clock server head ((delivery server'.script).behind behind) := by
  obtain ⟨_, _, heffect⟩ := (Move.send_effect _ _ _ _).of_ok h
  have hscript : t.sink.script = server.script := by rw [heffect.sink]
  refine ⟨t, raw, ⟨n, h⟩, ⟨behind, by rw [hr]⟩, ⟨rest, hh⟩, ?_⟩
  rw [Delivery.behind_behind, ← hscript]
  exact delivery_of_readHead hr

end

/-! ## Shapes -/

/-- A captured body is not empty and within the limit. -/
def WellCaptured (body? : Option Bytes) : Prop :=
  ∀ body, body? = some body → body ≠ [] ∧ body.length ≤ captureLimit

theorem wellCaptured_kept? (data : Bytes) : WellCaptured (Capture.kept? data) := by
  intro body h
  unfold Capture.kept? at h
  split at h
  · cases h
  · rename_i hne
    cases h
    have hpos : data ≠ [] := fun hnil => hne (isEmpty_iff.mpr hnil)
    refine ⟨?_, length_take_le _ _⟩
    simpa [take_eq_nil_iff, captureLimit] using hpos

theorem length_kept? (data : Bytes) :
    ((Capture.kept? data).map length).getD 0 = min data.length captureLimit := by
  unfold Capture.kept?
  split
  · rename_i hnil
    simp [isEmpty_iff.mp hnil]
  · simp [Nat.min_comm]

/-- The record of a response that came back whole. -/
structure Whole (head : Http.ResponseHead) (B : Delivery) (r : Exchange) : Prop where
  status : r.status = some head.status
  reason : r.reason = some head.reason
  headers : r.responseHeaders = head.headers
  /-- The size counts the data, of which the beginning is captured. -/
  size : ∃ data : Bytes, data.length ≤ B.bytes.length ∧
    r.responseSize = some (UInt64.ofNat data.length) ∧ r.responseBody = Capture.kept? data
  /-- As long as 64 bits can count what is delivered, the size tells how much is captured. -/
  captured : B.bytes.length < UInt64.size → ∀ size, r.responseSize = some size →
    (r.responseBody.map length).getD 0 = min size.toNat captureLimit

/-- The record of an exchange, as far as it came with the server that was reached, if one was. -/
structure Shaped (request : Request) (held : Bytes) (client : Peer) (clock : Clock)
    (server : Option Peer) (r : Exchange) : Prop where
  port : r.port = request.destination.port
  url : r.url = urlOf request.destination.scheme.name request.destination.host
    request.destination.port request.destination.path
  requestHeaders : r.requestHeaders = request.headers
  total : r.timing.total.isSome
  note : r.outcome = .completed ↔ r.note = none
  size : r.outcome = .completed ↔ r.responseSize.isSome
  send : r.timing.send.isSome ↔ ∃ u, server = some u ∧ Forwarded request held client clock u
  wait : r.timing.wait.isSome ↔
    ∃ u head B, server = some u ∧ HeadRead request held client clock u head B
  receive : r.timing.receive.isSome ↔ r.timing.wait.isSome
  completed : r.outcome = .completed → r.timing.send.isSome ∧ r.timing.wait.isSome ∧
    r.timing.receive.isSome ∧
      ∃ u head B, server = some u ∧ HeadRead request held client clock u head B ∧ Whole head B r
  failed : r.outcome = .failed →
    r.status = some 502 ∨ (r.status = some 400 ∨ r.status = some 413) ∧ r.timing.wait = none
  responseHeaders : r.responseHeaders ≠ [] → r.timing.wait.isSome
  requestBody : WellCaptured r.requestBody
  responseBody : WellCaptured r.responseBody

/-! ## Shapes along the way -/

/-- The record of a request without anything that a server has to do with. -/
structure Fresh (request : Request) (e : Exchange) : Prop extends Unanswered e where
  port : e.port = request.destination.port
  url : e.url = urlOf request.destination.scheme.name request.destination.host
    request.destination.port request.destination.path
  requestHeaders : e.requestHeaders = request.headers
  responseHeaders : e.responseHeaders = []
  responseBody : e.responseBody = none
  wait : e.timing.wait = none
  receive : e.timing.receive = none

theorem ChunkedBody.length_data_le (b : ChunkedBody) : b.data.length ≤ b.wire.length := by
  induction b with
  | last line isLine size trailers => exact Nat.zero_le _
  | chunk line data isLine size nonempty more ih =>
      simp only [ChunkedBody.data, ChunkedBody.wire, length_append]
      omega

theorem Body.length_data_le (b : Body) : b.data.length ≤ b.wire.length := by
  cases b with
  | chunked chunks => exact chunks.length_data_le
  | _ => exact Nat.le_refl _

section

variable {request : Request} {start : ℕ} {e r : Exchange} {held : Bytes} {client : Peer}
  {clock : Clock} {server : Option Peer}

/-- What is given up before a head came back. -/
theorem shaped_breakdown {b : Breakdown} {client' : Peer} {clock' : Clock} {left : Option Peer}
    (he : Fresh request e) (hbody : WellCaptured e.requestBody)
    (hsend : e.timing.send.isSome ↔ ∃ u, server = some u ∧ Forwarded request held client clock u)
    (hread : ∀ u head B, server = some u → ¬ HeadRead request held client clock u head B)
    (hr : (Closing.breakdown b start e client' left clock').record = some r) :
    Shaped request held client clock server r := by
  simp only [Closing.breakdown] at hr
  split at hr
  · cases hr
    refine ⟨he.port, he.url, he.requestHeaders, rfl, ?_, ?_, hsend, ?_, ?_, ?_, ?_, ?_, hbody, ?_⟩
    · simp [Exchange.fail]
    · simp [Exchange.fail, he.size]
    · simp only [Exchange.fail, he.wait, Option.isSome_none, Bool.false_eq_true, false_iff]
      rintro ⟨u, head, B, hu, hhead⟩
      exact hread u head B hu hhead
    · simp [Exchange.fail, he.wait, he.receive]
    · simp [Exchange.fail]
    · intro _
      cases b <;> simp [Exchange.fail, Breakdown.reply, Refusal.reply, he.wait]
    · simp [Exchange.fail, he.responseHeaders]
    · intro body hsome
      simp [Exchange.fail, he.responseBody] at hsome
  · cases hr

/-- What is relayed, whether the relay fails or not. -/
theorem shaped_relay {u server' client' : Peer} {head : Http.ResponseHead} {behind : Bytes}
    {clock' : Clock} {e' : Exchange} {waited : UInt32}
    (he : Fresh request e) (hbody : WellCaptured e.requestBody)
    (hsend : e.timing.send.isSome)
    (he' : e' = { e with timing := { e.timing with wait := some waited } })
    (hread : HeadRead request held client clock u head ((delivery server'.script).behind behind))
    (hr : (Closing.relay request start e' head behind client' server' clock').record = some r) :
    Shaped request held client clock (some u) r := by
  subst he'
  have hframing := Move.send_spec (responseHeadBytes head) none
    (Framing.ofResponse (request.method == .head) head.status head.headers)
    ⟨server', client', clock', behind, {}⟩
  have heffect := Move.send_effect (responseHeadBytes head) none
    (Framing.ofResponse (request.method == .head) head.status head.headers)
    ⟨server', client', clock', behind, {}⟩
  have hforwarded : ∃ v, some u = some v ∧ Forwarded request held client clock v :=
    ⟨u, rfl, hread.forwarded⟩
  have hhead : ∃ v head B, some u = some v ∧ HeadRead request held client clock v head B :=
    ⟨u, head, _, rfl, hread⟩
  cases hrelay : Move.response head
      (Framing.ofResponse (request.method == .head) head.status head.headers)
      ⟨server', client', clock', behind, {}⟩ with
  | ok n t =>
      obtain ⟨b, hfinds, -, rfl, hadv⟩ := hframing.of_ok hrelay
      have hkept : t.captured.body? = Capture.kept? b.data := hadv.body? rfl
      have hlength : b.data.length ≤ ((delivery server'.script).behind behind).bytes.length :=
        b.length_data_le.trans hfinds.begins.wire_prefix.length_le
      simp only [Closing.relay, hrelay, Option.some.injEq] at hr
      subst hr
      refine ⟨he.port, he.url, he.requestHeaders, rfl, ?_, ?_, ?_, ?_, ?_, fun _ => ?_, ?_, ?_,
        hbody, ?_⟩
      · simp [Closing.answered, he.outcome, he.note]
      · simp [Closing.answered, he.outcome]
      · exact iff_of_true hsend hforwarded
      · exact iff_of_true rfl hhead
      · exact iff_of_true rfl rfl
      · refine ⟨hsend, rfl, rfl, u, head, _, rfl, hread, rfl, rfl, rfl,
          ⟨b.data, hlength, rfl, hkept⟩, ?_⟩
        rintro hsmall size ⟨⟩
        have hcount : (UInt64.ofNat b.data.length).toNat = b.data.length :=
          UInt64.toNat_ofNat_of_lt' (Nat.lt_of_le_of_lt hlength hsmall)
        rw [hcount, ← length_kept?, ← hkept]
        rfl
      · intro hfailed
        cases he.outcome.symm.trans hfailed
      · exact fun _ => rfl
      · show WellCaptured t.captured.body?
        rw [hkept]
        exact wellCaptured_kept? _
  | error s t =>
      obtain ⟨written, data, heff⟩ := heffect.of_error hrelay
      have hkept : t.captured.body? = Capture.kept? data := heff.body? rfl
      cases s with
      | waiting =>
          simp only [Closing.relay, hrelay, Closing.waiting] at hr
          cases hr
      | failed fault =>
          simp only [Closing.relay, hrelay, Option.some.injEq] at hr
          subst hr
          refine ⟨he.port, he.url, he.requestHeaders, rfl, ?_, ?_, ?_, ?_, ?_, ?_, fun _ => .inl rfl,
            fun _ => rfl, hbody, ?_⟩
          · simp [Exchange.fail]
          · simp [Exchange.fail, Closing.answered, he.size]
          · exact iff_of_true hsend hforwarded
          · exact iff_of_true rfl hhead
          · exact iff_of_true rfl rfl
          · intro hcompleted
            cases hcompleted
          · show WellCaptured t.captured.body?
            rw [hkept]
            exact wellCaptured_kept? _

theorem shaped_respond {u : Peer} {n : ℕ} {t : Transfer}
    (h : Move.request request ⟨client, u, clock, held, {}⟩ = .ok n t) (he : Fresh request e)
    (hbody : WellCaptured e.requestBody) (hsend : e.timing.send.isSome)
    (hr : (Closing.respond request start e t.source t.sink t.clock).record = some r) :
    Shaped request held client clock (some u) r := by
  have hforwarded : e.timing.send.isSome ↔
      ∃ v, some u = some v ∧ Forwarded request held client clock v :=
    iff_of_true hsend ⟨u, rfl, forwarded_of_ok h⟩
  unfold Closing.respond at hr
  split at hr
  · cases hr
  · rename_i fault server' later hfault hread
    refine shaped_breakdown he hbody hforwarded ?_ hr
    rintro v head B ⟨⟩
    exact not_headRead_of_error h (congrArg Prod.fst hread)
  · rename_i raw behind server' later hread
    split at hr
    · rename_i fault hhead
      refine shaped_breakdown he hbody hforwarded ?_ hr
      rintro v head B ⟨⟩
      exact not_headRead_of_fault h (congrArg Prod.fst hread) hhead
    · rename_i head rest hhead
      exact shaped_relay he hbody hsend rfl (headRead_of_ok h hread hhead) hr

theorem shaped_ofRequest (he : Fresh request e) (hempty : e.requestBody = none)
    (hunsent : e.timing.send = none)
    (hr : (Closing.ofRequest request start e held client clock server).record = some r) :
    Shaped request held client clock server r := by
  cases server with
  | none =>
      refine shaped_breakdown he ?_ ?_ ?_ hr
      · intro body hsome
        cases hempty.symm.trans hsome
      · simp [hunsent]
      · intro u head B hu
        cases hu
  | some u =>
      have heffect := Move.send_effect request.headBytes (some requestBodyLimit) request.framing
        ⟨client, u, clock, held, {}⟩
      cases hrequest : Move.request request ⟨client, u, clock, held, {}⟩ with
      | ok n t =>
          obtain ⟨written, data, heff⟩ := heffect.of_ok hrequest
          have hkept : t.captured.body? = Capture.kept? data := heff.body? rfl
          simp only [Closing.ofRequest, hrequest] at hr
          refine shaped_respond hrequest ?_ ?_ rfl hr
          · exact ⟨⟨he.outcome, he.note, he.size⟩, he.port, he.url, he.requestHeaders,
              he.responseHeaders, he.responseBody, he.wait, he.receive⟩
          · show WellCaptured t.captured.body?
            rw [hkept]
            exact wellCaptured_kept? data
      | error s t =>
          obtain ⟨written, data, heff⟩ := heffect.of_error hrequest
          have hkept : t.captured.body? = Capture.kept? data := heff.body? rfl
          cases s with
          | waiting =>
              simp only [Closing.ofRequest, hrequest, Closing.waiting] at hr
              cases hr
          | failed fault =>
              simp only [Closing.ofRequest, hrequest] at hr
              refine shaped_breakdown ?_ ?_ ?_ ?_ hr
              · exact ⟨⟨he.outcome, he.note, he.size⟩, he.port, he.url, he.requestHeaders,
                  he.responseHeaders, he.responseBody, he.wait, he.receive⟩
              · show WellCaptured t.captured.body?
                rw [hkept]
                exact wellCaptured_kept? data
              · refine iff_of_false (by simp [hunsent]) ?_
                rintro ⟨v, ⟨⟩, hforwarded⟩
                exact not_forwarded hrequest hforwarded
              · rintro v head B ⟨⟩ hhead
                exact not_forwarded hrequest hhead.forwarded

end

/-! ## Servers that are reached -/

/-- A server as it is later. If it was not reached until then, it is as it was. -/
structure Server.Later (u u' : Server) : Prop where
  host : u'.host = u.host
  port : u'.port = u.port
  untouched : u'.connected = false → u' = u

theorem Server.Later.refl (u : Server) : u.Later u := ⟨rfl, rfl, fun _ => rfl⟩

theorem Server.Later.trans {u v z : Server} (h : u.Later v) (h' : v.Later z) : u.Later z where
  host := h'.host.trans h.host
  port := h'.port.trans h.port
  untouched := fun hz => by
    obtain rfl := h'.untouched hz
    exact h.untouched hz

/-- Servers as they are later. -/
def ServersLater (us us' : List Server) : Prop := Forall₂ Server.Later us us'

theorem ServersLater.refl (us : List Server) : ServersLater us us :=
  forall₂_same.mpr fun u _ => .refl u

theorem ServersLater.trans {us vs zs : List Server} (h : ServersLater us vs)
    (h' : ServersLater vs zs) : ServersLater us zs := by
  induction h generalizing zs with
  | nil => exact h'
  | cons hu _ ih =>
      cases h' with
      | cons hv hrest => exact .cons (hu.trans hv) (ih hrest)

/-- A server that is reached may change from then on. -/
theorem serversLater_modify {us : List Server} {i : ℕ} {f : Server → Server}
    (h : ∀ u, us[i]? = some u →
      (f u).host = u.host ∧ (f u).port = u.port ∧ (f u).connected = true) :
    ServersLater us (us.modify i f) := by
  induction us generalizing i with
  | nil => simp [ServersLater]
  | cons u us ih =>
      cases i with
      | zero =>
          obtain ⟨hhost, hport, hconnected⟩ := h u rfl
          refine .cons ⟨hhost, hport, fun hfalse => ?_⟩ (ServersLater.refl us)
          cases hconnected.symm.trans hfalse
      | succ i => exact .cons (.refl u) (ih fun v hv => h v hv)

theorem ServersLater.getElem? {us us' : List Server} (h : ServersLater us us') {i : ℕ} {u' : Server}
    (hi : us'[i]? = some u') (hu' : u'.connected = false) : us[i]? = some u' := by
  induction h generalizing i with
  | nil => cases hi
  | cons hu _ ih =>
      cases i with
      | zero =>
          cases hi
          rw [hu.untouched hu']
          rfl
      | succ i => exact ih hi

/-- The server of a connection was not reached before, has the name that the request asks for, and
is reached by nobody else since. -/
def Passage.Holds (us us' : List Server) : Passage → Prop
  | .over .. => True
  | .under request _ _ _ found => ∀ i, found = some i → ∃ u, us[i]? = some u ∧
      u.connected = false ∧ u.host = request.destination.host ∧
        u.port = request.destination.port ∧ us'[i]? = some { u with connected := true }

variable {us us' : List Server} {w w' : World}

/-- A server that is claimed was not reached before. -/
theorem getElem?_of_claim {host : String} {port : UInt16} {i : ℕ}
    (h : claim host port us = some i) :
    ∃ u, us[i]? = some u ∧ u.connected = false ∧ u.host = host ∧ u.port = port := by
  obtain ⟨hlt, hu, -⟩ := findIdx?_eq_some_iff_getElem.mp h
  simp only [Bool.and_eq_true, Bool.not_eq_true', beq_iff_eq] at hu
  exact ⟨us[i], getElem?_eq_getElem hlt, hu.1.1, hu.1.2, hu.2⟩

/-- What connections that seek their servers leave behind. -/
structure Seeking (us : List Server) (passages : List Passage) (w : World) : Prop where
  later : ServersLater us w.servers
  holds : ∀ p ∈ passages, p.Holds us w.servers

theorem seeking_seekAt {passages : List Passage} (h : Seeking us passages w) (i : ℕ) :
    Seeking us (seekAt passages w i).1 (seekAt passages w i).2 := by
  unfold seekAt
  cases hi : passages[i]? with
  | none => exact h
  | some p =>
      cases p with
      | «over» client clock =>
          refine ⟨h.later, fun q hq => ?_⟩
          rcases mem_or_eq_of_mem_set hq with hmem | rfl
          · exact h.holds q hmem
          · trivial
      | under request held client clock found =>
          simp only [Passage.seek]
          cases hclaim : claim request.destination.host request.destination.port w.servers with
          | none =>
              refine ⟨h.later, fun q hq => ?_⟩
              rcases mem_or_eq_of_mem_set hq with hmem | rfl
              · exact h.holds q hmem
              · intro j hj
                cases hj
          | some j =>
              obtain ⟨u, hu, hfree, hhost, hport⟩ := getElem?_of_claim hclaim
              have hbefore : us[j]? = some u := h.later.getElem? hu hfree
              refine ⟨h.later.trans (serversLater_modify fun _ _ => ⟨rfl, rfl, rfl⟩), ?_⟩
              intro q hq
              rcases mem_or_eq_of_mem_set hq with hmem | rfl
              · -- the server that was claimed is nobody else's
                have hq := h.holds q hmem
                cases q with
                | «over» => trivial
                | under request' held' client' clock' found' =>
                    intro j' hj'
                    obtain ⟨v, hv, hvfree, hvhost, hvport, hvnow⟩ := hq j' hj'
                    refine ⟨v, hv, hvfree, hvhost, hvport, ?_⟩
                    have hne : j ≠ j' := by
                      rintro rfl
                      obtain rfl := Option.some.inj (hu.symm.trans hvnow)
                      cases hfree
                    exact (getElem?_modify_ne _ _ hne).trans hvnow
              · intro j' hj'
                cases hj'
                exact ⟨u, hbefore, hfree, hhost, hport, by simp [hu]⟩

theorem seeking_seekAll (schedule : Schedule) {passages : List Passage}
    (h : Seeking us passages w) :
    Seeking us (seekAll schedule passages w).1 (seekAll schedule passages w).2 := by
  unfold seekAll
  generalize schedule.seeking passages = turns
  induction turns generalizing passages w with
  | nil => exact h
  | cons i turns ih => exact ih (seeking_seekAt h i)

/-- Whoever found a server has reached it. -/
def Passage.Reaches (us : List Server) : Passage → Prop
  | .over .. => True
  | .under _ _ _ _ found => ∀ i, found = some i → ∃ u, us[i]? = some u ∧ u.connected = true

theorem Passage.Holds.reaches {p : Passage} (h : p.Holds us us') : p.Reaches us' := by
  cases p with
  | «over» => trivial
  | under request held client clock found =>
      intro i hi
      obtain ⟨u, -, -, -, -, hu⟩ := h i hi
      exact ⟨_, hu, rfl⟩

/-- A server that is reached stays so. -/
theorem Passage.Reaches.later {p : Passage} (h : p.Reaches us) (hl : ServersLater us us') :
    p.Reaches us' := by
  cases p with
  | «over» => trivial
  | under request held client clock found =>
      intro i hi
      obtain ⟨u, hu, hconnected⟩ := h i hi
      have hlt : i < us'.length := by
        rw [← hl.length_eq]
        exact (List.getElem?_eq_some_iff.mp hu).1
      refine ⟨us'[i], getElem?_eq_getElem hlt, ?_⟩
      by_contra hfree
      rw [Bool.not_eq_true] at hfree
      have hsame := hl.getElem? (getElem?_eq_getElem hlt) hfree
      obtain rfl := Option.some.inj (hu.symm.trans hsame)
      cases hfree.symm.trans hconnected

/-- To put back a server that was reached changes no other server. -/
theorem serversLater_settleOne {p : Passage} (c : Closing) (h : p.Reaches w.servers) :
    ServersLater w.servers (settleOne w p c).servers := by
  unfold settleOne
  split
  · rename_i request held client clock i peer hserver
    obtain ⟨u, hu, hconnected⟩ := h i rfl
    refine serversLater_modify fun v hv => ⟨rfl, rfl, ?_⟩
    obtain rfl := Option.some.inj (hu.symm.trans hv)
    exact hconnected
  · exact .refl _

theorem serversLater_settleAll (ends : List (Passage × Closing)) {w : World}
    (h : ∀ p ∈ ends, p.1.Reaches w.servers) :
    ServersLater w.servers (ends.foldl (fun w (p, c) => settleOne w p c) w).servers := by
  induction ends generalizing w with
  | nil => exact .refl _
  | cons first ends ih =>
      have hfirst := serversLater_settleOne first.2 (h first (mem_cons_self ..))
      refine hfirst.trans (ih fun p hp => ?_)
      exact (h p (mem_cons_of_mem _ hp)).later hfirst

/-! ## What a run records -/

/-- A record is traced back to what its client sent, and to the server that was sought for it. -/
inductive Traced (w w' : World) (client : Peer) (r : Exchange) : Prop where
  | intro {raw rest held : Bytes} {head : Http.RequestHead} {request : Request} {left : Peer}
      {clock : Clock} {server : Option Peer}
      (ends : Bytes.EndsAtFirst Bytes.headEnd raw)
      (delivered : delivery client.script = (delivery left.script).behind (raw ++ held))
      (read : Http.Head.request fieldLimit raw = .ok (head, rest))
      (headers : request.headers = head.headers)
      (resolved : Destination.resolve? head.target head.headers = some request.destination)
      (sought : (request.destination.host, r.port) ∈ w'.sought)
      (reached : ∀ u, server = some u → ∃ v ∈ w.servers, v.connected = false ∧
        v.host = request.destination.host ∧ v.port = r.port ∧ v.peer = u)
      (shaped : Shaped request held left clock server r)

/-- The record of a connection has the shape of an exchange with the server that it found. -/
theorem shaped_conclude {stamp : Stamp} {request : Request} {held : Bytes} {client : Peer}
    {clock : Clock} {found : Option ℕ} {r : Exchange}
    (hr : (Passage.conclude stamp us (.under request held client clock found)).record = some r) :
    ∃ clock', Shaped request held client clock' ((found.bind (us[·]?)).map Server.peer) r := by
  have hfresh : Fresh request { request.exchange with
      id := stamp.id
      timing := { startedAt := stamp.acceptedAt + Int64.ofNat clock.now } } :=
    ⟨⟨rfl, rfl, rfl⟩, rfl, rfl, rfl, rfl, rfl, rfl, rfl⟩
  cases hfound : found.bind (us[·]?) with
  | none =>
      simp only [Passage.conclude, hfound] at hr
      exact ⟨clock, shaped_ofRequest hfresh rfl rfl hr⟩
  | some u =>
      simp only [Passage.conclude, hfound] at hr
      split at hr
      · exact ⟨clock.after u.delay, shaped_ofRequest hfresh rfl rfl hr⟩
      · cases hr

theorem traced_conclude {stamp : Stamp} {horizon : ℕ} {client : Peer} {p : Passage} {r : Exchange}
    (hp : p.before = Passage.ofClient horizon client) (hholds : p.Holds w.servers us)
    (hsought : ∀ target, p.target? = some target → target ∈ w'.sought)
    (hr : (Passage.conclude stamp us p).record = some r) : Traced w w' client r := by
  cases p with
  | «over» => cases hr
  | under request held left clock found =>
      have hopening : opening client ⟨horizon, []⟩ = .wanted request held left clock := by
        unfold Passage.ofClient at hp
        split at hp
        · cases hp
        · rename_i hwanted
          cases hp
          exact hwanted
      obtain ⟨raw, haccepted⟩ := accepted_of_opening hopening
      obtain ⟨head, rest, hread, hof⟩ := haccepted.read
      have hrequest := Request.of_ofHead hof
      obtain ⟨clock', hshaped⟩ := shaped_conclude hr
      refine .intro haccepted.ends haccepted.delivered hread hrequest.headers
        hrequest.destination ?_ ?_ hshaped
      · rw [hshaped.port]
        exact hsought _ rfl
      · intro u hu
        obtain ⟨v, hv, rfl⟩ := Option.map_eq_some_iff.mp hu
        obtain ⟨i, hi, hvi⟩ := Option.bind_eq_some_iff.mp hv
        obtain ⟨z, hz, hfree, hhost, hport, hznow⟩ := hholds i hi
        obtain rfl := Option.some.inj (hvi.symm.trans hznow)
        exact ⟨z, mem_of_getElem? hz, hfree, hhost, hport.trans hshaped.port.symm, rfl⟩

/-- What a run does to servers, to what was sought and to the stores, and what is left of it. The
record of a connection is traced back to the client that it belongs to. -/
structure Recording (horizon : ℕ) (clients : List Peer) (w : World) (served : List Peer × World)
    (closings : List Closing) (entries : List Exchange) : Prop
    extends Carrying horizon clients w served closings entries where
  servers : ServersLater w.servers served.2.servers
  sought : w.sought <+: served.2.sought
  traced : Forall₂ (fun client c => ∀ r, c.record = some r → Traced w served.2 client r)
    clients closings

theorem foldl_record_frame (entries : List Exchange) (w : World) :
    (entries.foldl World.record w).servers = w.servers ∧
      (entries.foldl World.record w).sought = w.sought := by
  induction entries generalizing w with
  | nil => exact ⟨rfl, rfl⟩
  | cons e entries ih =>
      obtain ⟨hservers, hsought⟩ := ih (w.record e)
      exact ⟨hservers.trans (record_frame w e).1, hsought.trans (record_frame w e).2⟩

section

variable {schedule : Schedule} {horizon : ℕ} {clients : List Peer} {p : Passage}

theorem seeking_clients (schedule : Schedule) (horizon : ℕ) (clients : List Peer) (w : World) :
    Seeking w.servers (seekAll schedule (clients.map (Passage.ofClient horizon)) w).1
      (seekAll schedule (clients.map (Passage.ofClient horizon)) w).2 := by
  refine seeking_seekAll schedule ⟨.refl _, fun p hp => ?_⟩
  obtain ⟨client, -, rfl⟩ := mem_map.mp hp
  unfold Passage.ofClient
  split
  · trivial
  · intro i hi
    cases hi

/-- Clients that are carried at once come each to what its passage is concluded with, once it has
sought its server. -/
theorem forall₂_carry (schedule : Schedule) (stamp : Stamp) (horizon : ℕ) (clients : List Peer)
    (w : World) :
    Forall₂ (fun client c => ∃ p us, Passage.ofClient horizon client = p.before ∧
        p.Holds w.servers us ∧ c = Passage.conclude
          { stamp with acceptedAt := stamp.acceptedAt + Int64.ofNat w.elapsed } us p)
      clients (carry schedule stamp horizon clients w).1 := by
  let sought := seekAll schedule (clients.map (Passage.ofClient horizon)) w
  have hseeking : Seeking w.servers sought.1 sought.2 := seeking_clients schedule horizon clients w
  have hbefore := (sought_seekAll schedule (clients.map (Passage.ofClient horizon)) w).forall₂
  have hheld := Forall₂.flip ((forall₂_and_left _ _).mpr ⟨hseeking.holds, hbefore.flip⟩)
  show Forall₂ _ clients (sought.1.map _)
  rw [forall₂_map_right_iff]
  exact hheld.imp fun _ p h => ⟨p, sought.2.servers, h.2, h.1, rfl⟩

/-- Where everybody has a turn, every server that is asked for is sought. -/
theorem mem_sought_of_target? (hfair : schedule.Fair) {client : Peer} (hclient : client ∈ clients)
    (hbefore : Passage.ofClient horizon client = p.before) {target : String × UInt16}
    (ht : p.target? = some target) :
    target ∈ (seekAll schedule (clients.map (Passage.ofClient horizon)) w).2.sought := by
  let passages := clients.map (Passage.ofClient horizon)
  have hturns := ((hfair.seeking passages).filterMap
    fun i => passages[i]?.bind Passage.target?).trans
      (filterMap_inOrder Passage.clock? Passage.target? passages fun q target' hq => by
        cases q with
        | «over» => cases hq
        | under => rfl)
  have hmem : target ∈ passages.filterMap Passage.target? := by
    refine mem_filterMap.mpr ⟨_, mem_map_of_mem hclient, ?_⟩
    rw [hbefore, target?_before, ht]
  rw [(sought_seekAll schedule passages w).sought]
  exact mem_append_right _ (hturns.mem_iff.mpr hmem)

end

/-- Clients that come at once. -/
theorem recording_serveTogether {schedule : Schedule} (hfair : schedule.Fair) (stamp : Stamp)
    (horizon : ℕ) (clients : List Peer) (w : World) :
    Recording horizon clients w (serveTogether schedule stamp horizon clients w)
      (carry schedule stamp horizon clients w).1
      (recordsInTurn schedule (carry schedule stamp horizon clients w).1) := by
  let stamp' : Stamp := { stamp with acceptedAt := stamp.acceptedAt + Int64.ofNat w.elapsed }
  let sought := seekAll schedule (clients.map (Passage.ofClient horizon)) w
  let closings := sought.1.map (Passage.conclude stamp' sought.2.servers)
  let settled := (sought.1.zip closings).foldl (fun w (p, c) => settleOne w p c) sought.2
  let entries := recordsInTurn schedule closings
  have hserved : (serveTogether schedule stamp horizon clients w).2.servers =
        (entries.foldl World.record settled).servers ∧
      (serveTogether schedule stamp horizon clients w).2.sought =
        (entries.foldl World.record settled).sought := by
    rw [← recordAll_eq]
    exact ⟨rfl, rfl⟩
  have hseek : Sought _ w _ sought.1 sought.2 := sought_seekAll schedule _ w
  have hseeking : Seeking w.servers sought.1 sought.2 := seeking_clients schedule horizon clients w
  have hsettled : ServersLater sought.2.servers settled.servers :=
    serversLater_settleAll _ fun p hp => (hseeking.holds p.1 (of_mem_zip hp).1).reaches
  obtain ⟨-, hsame⟩ := settled_all (sought.1.zip closings) sought.2
  obtain ⟨hservers, hunsought⟩ := foldl_record_frame entries settled
  have hsought : (serveTogether schedule stamp horizon clients w).2.sought = sought.2.sought := by
    rw [hserved.2, hunsought, hsame]
  refine ⟨carrying_serveTogether hfair stamp horizon clients w, ?_, ?_, ?_⟩
  · rw [hserved.1, hservers]
    exact hseeking.later.trans hsettled
  · rw [hsought, hseek.sought]
    exact prefix_append _ _
  · have hall := (forall₂_and_left _ _).mpr
      ⟨fun client (h : client ∈ clients) => h, forall₂_carry schedule stamp horizon clients w⟩
    refine hall.imp fun client c h r hr => ?_
    obtain ⟨hclient, p, us, hbefore, hholds, rfl⟩ := h
    refine traced_conclude hbefore.symm hholds (fun target htarget => ?_) hr
    rw [hsought]
    exact mem_sought_of_target? hfair hclient hbefore htarget

/-- What is traced in a part of a run is traced in the run. -/
theorem Traced.mono {w₁ w₂ : World} {client : Peer} {r : Exchange} (h : Traced w₁ w₂ client r)
    (hs : ServersLater w.servers w₁.servers) (hsought : w₂.sought <+: w'.sought) :
    Traced w w' client r := by
  obtain ⟨ends, delivered, read, headers, resolved, sought, reached, shaped⟩ := h
  refine .intro ends delivered read headers resolved (hsought.subset sought) ?_ shaped
  intro u hu
  obtain ⟨v, hv, hfree, hname⟩ := reached u hu
  obtain ⟨i, hi⟩ := mem_iff_getElem?.mp hv
  exact ⟨v, mem_of_getElem? (hs.getElem? hi hfree), hfree, hname⟩

section

variable {horizon : ℕ} {clients more : List Peer} {served later : List Peer × World}
  {closings others : List Closing} {entries records : List Exchange}

theorem Recording.nil (horizon : ℕ) (w : World) : Recording horizon [] w ([], w) [] [] :=
  ⟨.nil horizon w, .refl _, prefix_rfl, .nil⟩

theorem Recording.append (h : Recording horizon clients w served closings entries)
    (h' : Recording horizon more served.2 later others records) :
    Recording horizon (clients ++ more) w (served.1 ++ later.1, later.2) (closings ++ others)
      (entries ++ records) where
  toCarrying := h.toCarrying.append h'.toCarrying
  servers := h.servers.trans h'.servers
  sought := h.sought.trans h'.sought
  traced :=
    rel_append (h.traced.imp fun _ _ htraced r hr => (htraced r hr).mono (.refl _) h'.sought)
      (h'.traced.imp fun _ _ htraced r hr => (htraced r hr).mono h.servers prefix_rfl)

/-- Whatever is recorded is traced back to one of the clients. -/
theorem Recording.exists_client (h : Recording horizon clients w served closings entries)
    {r : Exchange} (hr : r ∈ entries) : ∃ client ∈ clients, Traced w served.2 client r := by
  obtain ⟨c, hc, hrecord⟩ := mem_filterMap.mp (h.recorded.mem_iff.mp hr)
  obtain ⟨client, hclient, htraced⟩ := exists_of_forall₂ h.traced hc
  exact ⟨client, hclient, htraced r hrecord⟩

end

end TrafficCapture.Proxy
