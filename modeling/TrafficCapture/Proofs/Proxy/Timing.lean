import TrafficCapture.Har.Entry
import TrafficCapture.Proofs.Proxy.Shape

/-! # How long exchanges take

The parts of an exchange are measured between moments of which each comes after the one before it,
and the whole from the first of them to the last. An archive shows the whole in place of a wait that
was not measured. If the request had been sent by then, the time for that is shown twice. -/

namespace TrafficCapture

open List

/-! ## What is shown -/

namespace Har

theorem toInt_milliseconds (n : UInt32) : (milliseconds n).toInt = n.toNat :=
  Int64.toInt_ofNat_of_lt (n.toNat_lt.trans (by decide))

theorem milliseconds_nonneg (n : UInt32) : 0 ≤ milliseconds n := by
  rw [Int64.le_iff_toInt_le, toInt_milliseconds]
  exact Int.natCast_nonneg _

/-- How long the parts take together. -/
def Timings.sum (s : Timings) : ℤ := s.send.toInt + s.wait.toInt + s.receive.toInt

theorem ofTiming_nonneg (t : Timing) : 0 ≤ (Timings.ofTiming t).send ∧
    0 ≤ (Timings.ofTiming t).wait ∧ 0 ≤ (Timings.ofTiming t).receive := by
  have hshown (n : Option UInt32) (m : UInt32) : 0 ≤ (n.map milliseconds).getD (milliseconds m) := by
    cases n <;> exact milliseconds_nonneg _
  exact ⟨hshown t.send 0, hshown t.wait (t.total.getD 0), hshown t.receive 0⟩

end Har

namespace Proxy

open Net

/-! ## Moments -/

/-- How long it is from one moment to another, as far as 32 bits can tell. -/
def span (start stop : ℕ) : UInt32 := UInt32.ofNat (min (stop - start) 0xFFFFFFFF)

theorem toNat_span (start stop : ℕ) : (span start stop).toNat = min (stop - start) 0xFFFFFFFF :=
  UInt32.toNat_ofNat_of_lt' (by rw [UInt32.size]; omega)

/-- Times that are measured between the moments of an exchange: a server is reached, the request is
sent, the head of the response comes, and the exchange ends. -/
inductive Timed : Timing → Prop where
  | unsent (startedAt : Int64) (ended : ℕ) : Timed { startedAt, total := some (span 0 ended) }
  | unanswered (startedAt : Int64) {reached sent ended : ℕ} (hsent : reached ≤ sent)
      (hended : sent ≤ ended) :
      Timed { startedAt, send := some (span reached sent), total := some (span 0 ended) }
  | answered (startedAt : Int64) {reached sent came ended : ℕ} (hsent : reached ≤ sent)
      (hcame : sent ≤ came) (hended : came ≤ ended) :
      Timed { startedAt, send := some (span reached sent), wait := some (span sent came),
              receive := some (span came ended), total := some (span 0 ended) }

/-- The parts of an exchange fill at most the whole of it once a head came back. Until then, what
is shown as the wait is the whole, and nothing is shown of a response. -/
theorem Timed.shown {t : Timing} (h : Timed t) (hall : t.total ≠ some 0xFFFFFFFF) :
    (t.wait.isSome → (Har.Timings.ofTiming t).sum ≤ (Har.milliseconds (t.total.getD 0)).toInt) ∧
      (t.wait = none → (Har.Timings.ofTiming t).sum =
        (Har.milliseconds (t.total.getD 0)).toInt + (Har.Timings.ofTiming t).send.toInt) := by
  cases h with
  | unsent | unanswered =>
      refine ⟨nofun, fun _ => ?_⟩
      simp [Har.Timings.sum, Har.Timings.ofTiming, Int.add_comm]
  | @answered startedAt reached sent came ended hsent hcame hended =>
      refine ⟨fun _ => ?_, nofun⟩
      -- the whole is counted, so that every part of it is
      have hcounted : ended < 0xFFFFFFFF := by
        by_contra hlong
        refine hall (congrArg some (UInt32.toNat_inj.mp ?_))
        rw [toNat_span]
        exact Nat.min_eq_right (by omega)
      simp only [Har.Timings.sum, Har.Timings.ofTiming, Option.map_some, Option.getD_some,
        Har.toInt_milliseconds, toNat_span]
      omega

/-! ## One exchange -/

section

variable {request : Request} {start : ℕ} {e r : Exchange} {held : Bytes} {client server : Peer}
  {clock : Clock}

theorem timing_breakdown {b : Breakdown} {left : Option Peer}
    (hr : (Closing.breakdown b start e client left clock).record = some r) :
    r.timing = { e.timing with total := some (span start clock.now) } := by
  simp only [Closing.breakdown] at hr
  split at hr
  · cases hr
    rfl
  · cases hr

/-- Whether a relay fails or not, it ends no earlier than it began. -/
theorem timing_relay {head : Http.ResponseHead}
    (hr : (Closing.relay request start e head held client server clock).record = some r) :
    ∃ ended, clock.now ≤ ended ∧ r.timing = { e.timing with
      receive := some (span clock.now ended)
      total := some (span start ended) } := by
  have heffect := Move.send_effect (responseHeadBytes head) none
    (Framing.ofResponse (request.method == .head) head.status head.headers)
    ⟨server, client, clock, held, {}⟩
  cases hrelay : Move.response head
      (Framing.ofResponse (request.method == .head) head.status head.headers)
      ⟨server, client, clock, held, {}⟩ with
  | ok n t =>
      obtain ⟨_, _, hmoved⟩ := heffect.of_ok hrelay
      simp only [Closing.relay, hrelay, Option.some.injEq] at hr
      subst hr
      exact ⟨t.clock.now, hmoved.time.later, rfl⟩
  | error s t =>
      obtain ⟨_, _, hmoved⟩ := heffect.of_error hrelay
      cases s with
      | waiting =>
          simp only [Closing.relay, hrelay, Closing.waiting] at hr
          cases hr
      | failed fault =>
          simp only [Closing.relay, hrelay, Option.some.injEq] at hr
          subst hr
          exact ⟨t.clock.now, hmoved.time.later, rfl⟩

theorem timed_respond (startedAt : Int64) {reached : ℕ} (hsent : reached ≤ clock.now)
    (he : e.timing = { startedAt, send := some (span reached clock.now) })
    (hr : (Closing.respond request 0 e client server clock).record = some r) : Timed r.timing := by
  have hheard := heard_readHead server clock
  have hunanswered {b : Breakdown} {left : Peer} {later : Clock} (hlater : clock.now ≤ later.now)
      (hr : (Closing.breakdown b 0 e client (some left) later).record = some r) :
      Timed r.timing := by
    rw [timing_breakdown hr, he]
    exact .unanswered startedAt hsent hlater
  unfold Closing.respond at hr
  split at hr
  · cases hr
  · rename_i fault server' later hfault hread
    rw [hread] at hheard
    exact hunanswered hheard.time.later hr
  · rename_i raw behind server' later hread
    rw [hread] at hheard
    split at hr
    · exact hunanswered hheard.time.later hr
    · obtain ⟨ended, hended, htiming⟩ := timing_relay hr
      rw [htiming, he]
      exact .answered startedAt hsent hheard.time.later hended

theorem timed_ofRequest {startedAt : Int64} {server : Option Peer} (he : e.timing = { startedAt })
    (hr : (Closing.ofRequest request 0 e held client clock server).record = some r) :
    Timed r.timing := by
  cases server with
  | none =>
      rw [timing_breakdown hr, he]
      exact .unsent startedAt _
  | some u =>
      have heffect := Move.send_effect request.headBytes (some requestBodyLimit) request.framing
        ⟨client, u, clock, held, {}⟩
      cases hrequest : Move.request request ⟨client, u, clock, held, {}⟩ with
      | ok n t =>
          obtain ⟨_, _, hmoved⟩ := heffect.of_ok hrequest
          simp only [Closing.ofRequest, hrequest] at hr
          refine timed_respond startedAt hmoved.time.later ?_ hr
          simp only [he]
          rfl
      | error s t =>
          cases s with
          | waiting =>
              simp only [Closing.ofRequest, hrequest, Closing.waiting] at hr
              cases hr
          | failed fault =>
              simp only [Closing.ofRequest, hrequest] at hr
              rw [timing_breakdown hr, he]
              exact .unsent startedAt _

end

theorem timed_conclude {stamp : Stamp} {servers : List Server} {p : Passage} {r : Exchange}
    (hr : (p.conclude stamp servers).record = some r) : Timed r.timing := by
  cases p with
  | «over» => cases hr
  | under request held client clock found =>
      cases hfound : found.bind (servers[·]?) with
      | none =>
          simp only [Passage.conclude, hfound] at hr
          exact timed_ofRequest rfl hr
      | some u =>
          simp only [Passage.conclude, hfound] at hr
          split at hr
          · exact timed_ofRequest rfl hr
          · cases hr

/-! ## Runs -/

/-- Whatever the clients and the servers do, what a run appends to the stores are the records of its
connections, and no time that is shown of them is negative. The parts fill at most the whole, as
long as 32 bits can tell that, if and only if the head of a response came back or no time went by
while the request was sent: what is shown as the wait for a head that did not come back is the
whole, to which the time for sending is added. -/
theorem shown_parts_within_iff (stamp : Stamp) (horizon : ℕ) (concurrent : Bool)
    (accepted : List (Except String Peer)) (w : World) :
    ∃ entries, Carrying horizon (accepted.filterMap Except.toOption) w
        (serve stamp horizon concurrent accepted w)
        (carryAll stamp horizon concurrent accepted w) entries ∧
      ∀ r ∈ entries,
        let shown := Har.Entry.ofExchange r
        0 ≤ shown.timings.send ∧ 0 ≤ shown.timings.wait ∧ 0 ≤ shown.timings.receive ∧
        (r.timing.total ≠ some 0xFFFFFFFF →
          (shown.timings.sum ≤ shown.time.toInt ↔
            r.timing.wait.isSome ∨ shown.timings.send = 0) ∧
          (r.timing.wait = none →
            shown.timings.sum = shown.time.toInt + shown.timings.send.toInt)) := by
  obtain ⟨entries, hcarrying⟩ := carrying_serve stamp horizon concurrent accepted w
  refine ⟨entries, hcarrying, fun r hr => ?_⟩
  obtain ⟨p, stamp', servers, hrecord⟩ := hcarrying.exists_passage hr
  intro shown
  obtain ⟨hsend, hwait, hreceive⟩ := Har.ofTiming_nonneg r.timing
  refine ⟨hsend, hwait, hreceive, fun hall => ?_⟩
  obtain ⟨hanswered, hunanswered⟩ := (timed_conclude hrecord).shown hall
  refine ⟨?_, hunanswered⟩
  cases hcame : r.timing.wait with
  | some waited => exact iff_of_true (hanswered (by rw [hcame]; rfl)) (.inl rfl)
  | none =>
      have hsum : shown.timings.sum = shown.time.toInt + shown.timings.send.toInt :=
        hunanswered hcame
      have hpos : 0 ≤ shown.timings.send.toInt := Int64.le_iff_toInt_le.mp hsend
      have hzero : shown.timings.send = 0 ↔ shown.timings.send.toInt = 0 :=
        Int64.toInt_inj.symm
      rw [hsum, hzero]
      simp only [Option.isSome_none, Bool.false_eq_true, false_or]
      omega

/-- A client that pauses before the body of its request, and a server that does not answer. -/
def pausingClient : Peer where
  script := [.arrival (Bytes.ofAscii "POST http://page/ HTTP/1.1\r\nContent-Length: 2\r\n\r\n"),
    .delay 5, .arrival (Bytes.ofAscii "hi")]

/-- The exchange takes five milliseconds, which are shown once as the time for sending and once as
the wait. -/
theorem shown_parts_within_iff_pausing :
    let served := serve ⟨"0", 0⟩ 100 false [.ok pausingClient] emptyWorld
    (∃ entries, Carrying 100 [pausingClient] emptyWorld served
        (carryAll ⟨"0", 0⟩ 100 false [.ok pausingClient] emptyWorld) entries ∧
      ∀ r ∈ entries, r.timing.total ≠ some 0xFFFFFFFF → r.timing.wait = none →
        (Har.Entry.ofExchange r).timings.sum = (Har.Entry.ofExchange r).time.toInt +
          (Har.Entry.ofExchange r).timings.send.toInt) ∧
    (served.2.registry.store ⟨0⟩).snapshot.map (fun r =>
      ((Har.Timings.ofTiming r.timing).sum, r.timing.total, r.timing.wait)) =
        [(10, some 5, none)] := by
  intro served
  refine ⟨?_, by decide +kernel⟩
  obtain ⟨entries, hcarrying, hshown⟩ :=
    shown_parts_within_iff ⟨"0", 0⟩ 100 false [.ok pausingClient] emptyWorld
  exact ⟨entries, hcarrying, fun r hr hall => ((hshown r hr).2.2.2 hall).2⟩

end Proxy

end TrafficCapture
