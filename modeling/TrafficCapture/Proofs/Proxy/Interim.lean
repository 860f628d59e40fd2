import TrafficCapture.Proofs.Proxy.Response

/-! # Interim heads

A server may send interim heads before the head of its response. The proxy takes the first head that
comes for the response: an interim head is relayed and recorded as a response without a body, and
nothing that comes behind it is. -/

namespace TrafficCapture.Proxy

open Net List

/-- A response head with the bytes that it is read from. -/
structure WrittenHead where
  raw : Bytes
  head : Http.ResponseHead
  ends : Bytes.EndsAtFirst Bytes.headEnd raw
  short : raw.length ≤ headLimit
  read : ∃ rest, Http.Head.response fieldLimit raw = .ok (head, rest)

/-- The head says that the response is still to come. -/
def WrittenHead.Interim (w : WrittenHead) : Prop :=
  100 ≤ w.head.status ∧ w.head.status < 200 ∧ w.head.status ≠ 101

instance (w : WrittenHead) : Decidable w.Interim :=
  inferInstanceAs (Decidable (100 ≤ w.head.status ∧ w.head.status < 200 ∧ w.head.status ≠ 101))

/-- A delivery of interim heads, one after another, and of the head of the response, behind which
`B` is delivered. -/
structure Responds (interims : List WrittenHead) (answer : WrittenHead) (B d : Delivery) :
    Prop where
  interim : ∀ w ∈ interims, w.Interim
  final : ¬ answer.Interim
  delivered : d = B.behind (interims.flatMap WrittenHead.raw ++ answer.raw)

section

variable {request : Request} {held : Bytes} {client : Peer} {clock : Clock} {servers : List Server}
  {i n : ℕ} {u : Server} {t : Transfer} {B : Delivery} {b : Body} {framing : Framing}

/-- The head that a server sends first is relayed and recorded with the body that its framing
finds. -/
theorem leading_head_relayed (stamp : Stamp) (hu : servers[i]? = some u)
    (hreach : clock.allows u.delay = true)
    (hsent : Move.request request ⟨client, u.peer, clock.after u.delay, held, {}⟩ = .ok n t)
    (hw : Outlasts t.clock u.peer.script) {w : WrittenHead}
    (hd : delivery u.peer.script = B.behind w.raw)
    (hf : Framing.OfResponse (request.method = .head) w.head.status w.head.headers framing)
    (hb : framing.Finds B b) (hs : ShortLines b.lines)
    (ha : client.Accepts ((responseHeadBytes w.head).length + b.wire.length)) :
    let closing := Passage.conclude stamp servers (.under request held client clock (some i))
    closing.client.received = client.received ++ responseHeadBytes w.head ++ b.wire ∧
      ∃ r, closing.record = some r ∧ Relayed w.head b.data r := by
  intro closing
  obtain ⟨_, _, heffect⟩ := (Move.send_effect _ _ _ _).of_ok hsent
  have hscript : t.sink.script = u.peer.script := by rw [heffect.sink]
  have hcame : ∃ behind, (readHead t.sink t.clock).1 = .ok (w.raw, behind) := by
    rw [← hscript] at hd hw
    exact readHead_of_delivery hd w.ends w.short hw
  have h : Answers request held client (clock.after u.delay) u.peer t w.raw w.head B :=
    ⟨⟨n, hsent⟩, hcame, w.read, hd⟩
  obtain ⟨e, behind, server, later, hclosing, he, rfl, hlater, hreceived, haccepts⟩ :=
    h.conclude_eq stamp hu hreach hw
  rw [show closing = _ from hclosing, ← hreceived]
  exact relay_whole he hf hb hs hlater (haccepts _ ha)

/-- The first head of a delivery is relayed and recorded. Without interim heads it is the head of
the response, which brings its body along, unless lines of the body are too long to be waited for.
An interim head comes alone, whatever the response is: no body is relayed or recorded with it, and
the response is not either. -/
theorem first_head_relayed (stamp : Stamp) (hu : servers[i]? = some u)
    (hreach : clock.allows u.delay = true)
    (hsent : Move.request request ⟨client, u.peer, clock.after u.delay, held, {}⟩ = .ok n t)
    (hw : Outlasts t.clock u.peer.script) {interims : List WrittenHead} {answer : WrittenHead}
    (hd : Responds interims answer B (delivery u.peer.script)) :
    let closing := Passage.conclude stamp servers (.under request held client clock (some i))
    (∀ framing b, interims = [] →
      Framing.OfResponse (request.method = .head) answer.head.status answer.head.headers framing →
      framing.Finds B b → ShortLines b.lines →
      client.Accepts ((responseHeadBytes answer.head).length + b.wire.length) →
        closing.client.received = client.received ++ responseHeadBytes answer.head ++ b.wire ∧
          ∃ r, closing.record = some r ∧ Relayed answer.head b.data r) ∧
    ∀ first more, interims = first :: more →
      client.Accepts (responseHeadBytes first.head).length →
        closing.client.received = client.received ++ responseHeadBytes first.head ∧
          ∃ r, closing.record = some r ∧ Relayed first.head [] r := by
  intro closing
  constructor
  · rintro framing b rfl hf hb hs ha
    exact leading_head_relayed stamp hu hreach hsent hw hd.delivered hf hb hs ha
  · rintro first more rfl ha
    let behind := B.behind (more.flatMap WrittenHead.raw ++ answer.raw)
    have hfirst : delivery u.peer.script = behind.behind first.raw := by
      rw [hd.delivered, Delivery.behind_behind, flatMap_cons, append_assoc]
    obtain ⟨hlow, hhigh, -⟩ := hd.interim first (mem_cons_self ..)
    have hbodiless : Framing.OfResponse (request.method = .head) first.head.status
        first.head.headers .empty := .empty (.inr (.inl ⟨hlow, hhigh⟩))
    have hempty : Framing.empty.Finds behind .empty := ⟨rfl, trivial⟩
    have hwire : Body.empty.wire = [] := rfl
    have haccepts : client.Accepts
        ((responseHeadBytes first.head).length + Body.empty.wire.length) := by
      rwa [hwire, length_nil, Nat.add_zero]
    obtain ⟨hreceived, hrecord⟩ := leading_head_relayed stamp hu hreach hsent hw hfirst hbodiless
      hempty (by decide) haccepts
    rw [hwire, append_nil] at hreceived
    exact ⟨hreceived, hrecord⟩

end

/-! ## Hints before a response -/

def hintsHead : WrittenHead where
  raw := Bytes.ofAscii "HTTP/1.1 103 Early Hints\r\nLink: </a>\r\n\r\n"
  head := ⟨1, 103, "Early Hints", [("Link", "</a>")]⟩
  ends := by decide +kernel
  short := by decide
  read := ⟨[], by decide +kernel⟩

def continueHead : WrittenHead where
  raw := Bytes.ofAscii "HTTP/1.1 100 Continue\r\n\r\n"
  head := ⟨1, 100, "Continue", []⟩
  ends := by decide +kernel
  short := by decide
  read := ⟨[], by decide +kernel⟩

def okHead : WrittenHead where
  raw := Bytes.ofAscii "HTTP/1.1 200 OK\r\nContent-Length: 2\r\n\r\n"
  head := ⟨1, 200, "OK", [("Content-Length", "2")]⟩
  ends := by decide +kernel
  short := by decide
  read := ⟨[], by decide +kernel⟩

/-- A server that sends two interim heads in one piece with the response. -/
def hintsServer : Server where
  host := "page"
  port := 80
  peer := { script := [
    .arrival (hintsHead.raw ++ continueHead.raw ++ okHead.raw ++ Bytes.ofAscii "hi")] }

theorem responds_hints :
    Responds [hintsHead, continueHead] okHead ⟨Bytes.ofAscii "hi", .ended⟩
      (delivery hintsServer.peer.script) :=
  ⟨by decide, by decide, by decide +kernel⟩

/-- A server that sends the response alone. -/
def plainServer : Server where
  host := "page"
  port := 80
  peer := { script := [.arrival (okHead.raw ++ Bytes.ofAscii "hi")] }

theorem responds_plain :
    Responds [] okHead ⟨Bytes.ofAscii "hi", .ended⟩ (delivery plainServer.peer.script) :=
  ⟨by decide, by decide, by decide +kernel⟩

/-- A request without a body is sent at once to who waits for it. -/
theorem sent_pageRequest (script : List Event) :
    Move.request pageRequest ⟨{}, { script }, ⟨100, []⟩, [], {}⟩ =
      .ok 0 ⟨{}, { script, writes := [pageRequest.headBytes] }, ⟨100, []⟩, [], {}⟩ := rfl

theorem first_head_relayed_hints :
    let under := Passage.under pageRequest [] {} ⟨100, []⟩ (some 0)
    let hinted := Passage.conclude ⟨"0", 0⟩ [hintsServer] under
    let plain := Passage.conclude ⟨"0", 0⟩ [plainServer] under
    (hinted.client.received = responseHeadBytes hintsHead.head ∧
      ∃ r, hinted.record = some r ∧ Relayed hintsHead.head [] r) ∧
    plain.client.received = responseHeadBytes okHead.head ++ Bytes.ofAscii "hi" ∧
      ∃ r, plain.record = some r ∧ Relayed okHead.head (Bytes.ofAscii "hi") r := by
  have hreach : Clock.allows ⟨100, []⟩ 0 = true := rfl
  constructor
  · have hu : [hintsServer][0]? = some hintsServer := rfl
    obtain ⟨hreceived, hrecord⟩ := (first_head_relayed ⟨"0", 0⟩ hu hreach (sent_pageRequest _)
      (by decide) responds_hints).2 _ _ rfl fun _ hr => by cases hr
    exact ⟨hreceived.trans (nil_append _), hrecord⟩
  · have hu : [plainServer][0]? = some plainServer := rfl
    have hf : Framing.OfResponse (pageRequest.method = .head) okHead.head.status
        okHead.head.headers (.fixed 2) := by
      have hplain : ¬ NamesChunks okHead.head.headers :=
        (isChunked_iff _).not.mp (by decide +kernel)
      exact .fixed (by simp [Bodiless, pageRequest, okHead]) hplain ⟨"2", by decide +kernel, rfl⟩
    have hb : (Framing.fixed 2).Finds ⟨Bytes.ofAscii "hi", .ended⟩ (.fixed (Bytes.ofAscii "hi")) :=
      ⟨rfl, prefix_rfl⟩
    obtain ⟨hreceived, hrecord⟩ := (first_head_relayed ⟨"0", 0⟩ hu hreach (sent_pageRequest _)
      (by decide) responds_plain).1 _ _ rfl hf hb (by decide) fun _ hr => by cases hr
    exact ⟨hreceived.trans (nil_append _), hrecord⟩

/-- The client is left without the response, and the record too. -/
theorem response_lost :
    Request.ofHead ⟨"GET", "http://page/", 1, []⟩ = .ok pageRequest ∧
      Responds [hintsHead, continueHead] okHead ⟨Bytes.ofAscii "hi", .ended⟩
        (delivery hintsServer.peer.script) ∧
      let closing := Passage.conclude ⟨"0", 0⟩ [hintsServer]
        (.under pageRequest [] {} ⟨100, []⟩ (some 0))
      ¬ responseHeadBytes okHead.head ++ Bytes.ofAscii "hi" <:+: closing.client.received ∧
        closing.record.map Exchange.status = some (some 103) :=
  ⟨by decide +kernel, responds_hints, by decide +kernel, by decide +kernel⟩

end TrafficCapture.Proxy
