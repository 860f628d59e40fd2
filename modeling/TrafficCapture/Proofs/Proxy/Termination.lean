import TrafficCapture.Proofs.Proxy.Consumption
import TrafficCapture.Proofs.Proxy.Shape

/-! # Termination

A connection waits only for peers that fall silent. With all others it comes to its end, and how
often it reads from them is bounded by what they send. -/

namespace TrafficCapture

open List

namespace Net

/-- A script that never falls silent ends or fails. -/
theorem ending_ne_silent {script : List Event} (h : Event.silence ∉ script) :
    (delivery script).ending ≠ .silent := by
  induction script with
  | nil => exact nofun
  | cons event script ih =>
      rw [mem_cons, not_or] at h
      cases event with
      | arrival bytes => exact ih h.2
      | delay ms => exact ih h.2
      | failure reason => exact nofun
      | silence => exact (h.1 rfl).elim

namespace Peer

@[simp] theorem reads_write (p : Peer) (bytes : Bytes) : (p.write bytes).2.reads = p.reads := by
  unfold write
  split <;> rfl

end Peer

end Net

namespace Proxy

open Net

/-! ## Transfers -/

/-- What a transfer leaves behind: one read more than bytes from its source at most, and none from
its sink. -/
structure Leaves (t t' : Transfer) : Prop where
  tally : t'.source.tally ≤ t.source.tally + 1
  reads : t'.sink.reads = t.sink.reads
  script : t'.sink.script = t.sink.script
  time : SameTime t.clock t'.clock t.source.script t'.source.script

namespace Move

theorem send_costs (head : Bytes) (limit : Option ℕ) (framing : Framing) (t : Transfer) :
    (put head >>= fun _ => body limit framing).Costs t fun _ t' =>
      t'.source.tally ≤ t.source.tally + 1 :=
  (put_costs head t).bind (fun _ _ h => h) fun _ t₁ h₁ =>
    (body_costs limit framing t₁).mono fun _ _ h₂ =>
      h₂.trans (Nat.add_le_add_right h₁.tally 1)

/-- A transfer from a source that does not fall silent does not wait in vain. -/
theorem send_leaves (head : Bytes) (limit : Option ℕ) (framing : Framing) {t : Transfer}
    (hwatch : t.Watched) (hends : (delivery t.source.script).ending ≠ .silent) :
    (put head >>= fun _ => body limit framing).Ends t (fun _ t' => Leaves t t')
      (fun s t' => s ≠ .waiting ∧ Leaves t t') := by
  have hcosts := send_costs head limit framing t
  have heffect := send_effect head limit framing t
  have hspec := send_spec head limit framing t
  have hleaves {written data : Bytes} {t' : Transfer} (he : Effect written data t t')
      (htally : t'.source.tally ≤ t.source.tally + 1) : Leaves t t' :=
    ⟨htally, by rw [he.sink], by rw [he.sink], he.time⟩
  unfold Ends
  cases hsend : (put head >>= fun _ => body limit framing) t with
  | ok n t' =>
      obtain ⟨_, _, he⟩ := heffect.of_ok hsend
      exact hleaves he (hcosts.of_ok hsend)
  | error s t' =>
      obtain ⟨_, _, he⟩ := heffect.of_error hsend
      refine ⟨?_, hleaves he (hcosts.of_error hsend)⟩
      rintro rfl
      rcases hspec.of_error hsend with hrefused | ⟨t₁, h₁, hlacks⟩
      · cases hrefused.stop
      · apply hends
        have hsilent := hlacks.halted.silent rfl (h₁.watched hwatch)
        rwa [h₁.ending_eq] at hsilent

end Move

/-! ## Connections -/

/-- A connection has ended, after so many reads from its client and from its server. -/
structure Closing.Ended (c : Closing) (fromClient fromServer : ℕ) : Prop where
  closed : c.client.closed = true
  reads : c.client.reads ≤ fromClient
  server : ∀ server ∈ c.server, server.closed = true ∧ server.reads ≤ fromServer

theorem Closing.Ended.mono {c : Closing} {m m' n n' : ℕ} (h : c.Ended m n) (hm : m ≤ m')
    (hn : n ≤ n') : c.Ended m' n' :=
  ⟨h.closed, h.reads.trans hm, fun server hs => ⟨(h.server server hs).1,
    (h.server server hs).2.trans hn⟩⟩

namespace Closing

variable {request : Request} {start m n : ℕ} {e : Exchange} {held : Bytes} {client server : Peer}
  {clock : Clock}

theorem ended_breakdown {b : Breakdown} {left : Option Peer} (hclient : client.reads ≤ m)
    (hserver : ∀ server ∈ left, server.reads ≤ n) :
    (breakdown b start e client left clock).Ended m n := by
  refine ⟨rfl, ?_, fun server h => ?_⟩
  · show (client.write b.reply.bytes).2.reads ≤ m
    rwa [Peer.reads_write]
  · obtain ⟨server, hmem, rfl⟩ := Option.map_eq_some_iff.mp h
    exact ⟨rfl, hserver server hmem⟩

theorem ended_relay {head : Http.ResponseHead} (hwatch : Outlasts clock server.script)
    (hends : (delivery server.script).ending ≠ .silent) :
    (relay request start e head held client server clock).Ended client.reads
      (server.tally + 1) := by
  have hleaves := Move.send_leaves (responseHeadBytes head) none
    (Framing.ofResponse (request.method == .head) head.status head.headers)
    (t := ⟨server, client, clock, held, {}⟩) hwatch hends
  cases hrelay : Move.response head
      (Framing.ofResponse (request.method == .head) head.status head.headers)
      ⟨server, client, clock, held, {}⟩ with
  | ok size t =>
      have hleft := hleaves.of_ok hrelay
      simp only [relay, hrelay]
      refine ⟨rfl, hleft.reads.le, ?_⟩
      rintro _ ⟨⟩
      exact ⟨rfl, (Peer.reads_le_tally _).trans hleft.tally⟩
  | error s t =>
      obtain ⟨hs, hleft⟩ := hleaves.of_error hrelay
      cases s with
      | waiting => exact (hs rfl).elim
      | failed fault =>
          simp only [relay, hrelay]
          refine ⟨rfl, hleft.reads.le, ?_⟩
          rintro _ ⟨⟩
          exact ⟨rfl, (Peer.reads_le_tally _).trans hleft.tally⟩

theorem ended_respond (hwatch : Outlasts clock server.script)
    (hends : (delivery server.script).ending ≠ .silent) :
    (respond request start e client server clock).Ended client.reads (server.tally + 1) := by
  obtain ⟨hmost, hok⟩ := tally_readHeadWithin (headLimit + 1) [] server clock
  have hheard := heard_readHead server clock
  rw [← readHead] at hmost hok
  have hgiven {b : Breakdown} {left : Peer} {later : Clock} {e' : Exchange}
      (hleft : left.tally ≤ server.tally + 1) :
      (breakdown b start e' client (some left) later).Ended client.reads (server.tally + 1) := by
    refine ended_breakdown le_rfl ?_
    rintro _ ⟨⟩
    exact (Peer.reads_le_tally left).trans hleft
  rcases hread : readHead server clock with ⟨fault | ⟨raw, behind⟩, left, later⟩
  · rw [hread] at hmost
    cases fault with
    | waiting => exact (hends ((readHead_stop hread).silent rfl hwatch)).elim
    | failed | tooLong =>
        simp only [respond, hread]
        exact hgiven hmost
  · rw [hread] at hmost hok hheard
    have hleft := hok _ rfl
    simp only [respond, hread]
    split
    · exact hgiven hmost
    · have hsame := congrArg Delivery.ending (delivery_of_readHead hread)
      rw [Delivery.behind_ending] at hsame
      refine (ended_relay (hheard.time.outlasts hwatch) (hsame ▸ hends)).mono le_rfl ?_
      exact Nat.add_le_add_right hleft 1

/-- However the request ends and the server answers, the exchange comes to its end in time. -/
theorem ended_ofRequest
    (hwatch : clock.now + waits client.script + waits server.script ≤ clock.horizon)
    (hclient : (delivery client.script).ending ≠ .silent)
    (hserver : (delivery server.script).ending ≠ .silent) :
    (ofRequest request start e held client clock (some server)).Ended (client.tally + 1)
      (server.tally + 1) := by
  have houtlasts : Outlasts clock client.script := (Nat.le_add_right _ _).trans hwatch
  have hleaves := Move.send_leaves request.headBytes (some requestBodyLimit) request.framing
    (t := ⟨client, server, clock, held, {}⟩) houtlasts hclient
  cases hrequest : Move.request request ⟨client, server, clock, held, {}⟩ with
  | ok n t =>
      have hleft := hleaves.of_ok hrequest
      simp only [ofRequest, hrequest]
      have hwatch' : Outlasts t.clock t.sink.script := by
        have hwaits : t.clock.now + waits t.source.script = clock.now + waits client.script :=
          hleft.time.waits
        have hhorizon : t.clock.horizon = clock.horizon := hleft.time.horizon
        unfold Outlasts
        rw [hleft.script, hhorizon]
        exact (by omega : t.clock.now + waits server.script ≤ clock.horizon)
      have hserver' : (delivery t.sink.script).ending ≠ .silent := by
        rw [hleft.script]
        exact hserver
      refine (ended_respond hwatch' hserver').mono ((Peer.reads_le_tally _).trans hleft.tally) ?_
      rw [Peer.tally_congr hleft.reads hleft.script]
  | error s t =>
      obtain ⟨hs, hleft⟩ := hleaves.of_error hrequest
      cases s with
      | waiting => exact (hs rfl).elim
      | failed fault =>
          simp only [ofRequest, hrequest]
          refine ended_breakdown ((Peer.reads_le_tally _).trans hleft.tally) ?_
          rintro _ ⟨⟩
          rw [hleft.reads]
          exact (Peer.reads_le_tally server).trans (Nat.le_succ _)

end Closing

/-! ## Openings -/

/-- Whoever is turned away is turned away in the end. -/
theorem closed_of_over {client left : Peer} {clock later : Clock}
    (h : opening client clock = .over left later) :
    left.closed = true ∧ left.reads ≤ client.tally + 1 := by
  have hmost := (tally_readHeadWithin (headLimit + 1) [] client
    (clock.limitedTo (clock.now + headPatience))).1
  rw [← readHead] at hmost
  have hrefused {refusal : Refusal} {peer : Peer} {woken : Clock}
      (hpeer : peer.tally ≤ client.tally + 1)
      (hover : refuse refusal peer woken = .over left later) :
      left.closed = true ∧ left.reads ≤ client.tally + 1 := by
    cases hover
    refine ⟨rfl, ?_⟩
    show (peer.write refusal.reply.bytes).2.reads ≤ client.tally + 1
    rw [Peer.reads_write]
    exact (Peer.reads_le_tally peer).trans hpeer
  unfold opening at h
  split at h
  · rename_i peer woken hread
    rw [hread] at hmost
    cases h
    exact ⟨rfl, (Peer.reads_le_tally peer).trans hmost⟩
  · rename_i fault peer woken hfault hread
    rw [hread] at hmost
    exact hrefused hmost h
  · rename_i raw behind peer woken hread
    rw [hread] at hmost
    split at h
    · exact hrefused hmost h
    · split at h
      · exact hrefused hmost h
      · cases h

theorem tally_of_wanted {client left : Peer} {clock later : Clock} {request : Request}
    {held : Bytes} (h : opening client clock = .wanted request held left later) :
    left.tally ≤ client.tally := by
  have hok := (tally_readHeadWithin (headLimit + 1) [] client
    (clock.limitedTo (clock.now + headPatience))).2
  rw [← readHead] at hok
  unfold opening at h
  split at h
  · cases h
  · cases h
  · rename_i raw behind peer woken hread
    rw [hread] at hok
    split at h
    · cases h
    · split at h
      · cases h
      · cases h
        exact hok _ rfl

/-! ## All of it -/

/-- A connection has ended with one read more from each of its peers than bytes came from it, at
most. -/
structure EndedAmong (us : List Server) (client : Peer) (c : Closing) : Prop where
  closed : c.client.closed = true
  reads : c.client.reads ≤ client.reads + arriving client.script + 1
  server : ∀ server ∈ c.server, server.closed = true ∧
    ∃ u ∈ us, server.reads ≤ u.peer.reads + arriving u.peer.script + 1

theorem endedAmong_conclude {horizon : ℕ} {client : Peer} {us us' : List Server} {p : Passage}
    (stamp : Stamp) (hp : Passage.ofClient horizon client = p.before) (hholds : p.Holds us us')
    (hclient : Event.silence ∉ client.script) (hservers : ∀ u ∈ us, Event.silence ∉ u.peer.script)
    (hwatch : ∀ u ∈ us, waits client.script + u.delay + waits u.peer.script ≤ horizon) :
    EndedAmong us client (Passage.conclude stamp us' p) := by
  unfold Passage.ofClient at hp
  cases hopen : opening client ⟨horizon, []⟩ with
  | «over» left clock =>
      rw [hopen] at hp
      cases p with
      | «over» =>
          cases hp
          obtain ⟨hclosed, hreads⟩ := closed_of_over hopen
          exact ⟨hclosed, hreads, nofun⟩
      | under => cases hp
  | wanted request held left clock =>
      rw [hopen] at hp
      cases p with
      | «over» => cases hp
      | under request' held' left' clock' found =>
          cases hp
          obtain ⟨raw, haccepted⟩ := accepted_of_opening hopen
          have htally := tally_of_wanted hopen
          have htime := haccepted.heard.time
          cases found with
          | none =>
              have hended : (Passage.conclude stamp us' (.under request held left clock none)).Ended
                  (client.tally + 1) 0 :=
                Closing.ended_breakdown ((Peer.reads_le_tally left).trans (by omega)) nofun
              exact ⟨hended.closed, hended.reads, nofun⟩
          | some i =>
              obtain ⟨u, hu, -, -, -, hnow⟩ := hholds i rfl
              have hmem := mem_of_getElem? hu
              have hlong := hwatch u hmem
              have hwaits : clock.now + waits left.script = waits client.script :=
                htime.waits.trans (Nat.zero_add _)
              have hhorizon : clock.horizon = horizon := htime.horizon
              have hallows : clock.allows u.delay = true := by
                rw [Clock.allows, decide_eq_true_eq, hhorizon]
                omega
              have hends : (delivery left.script).ending ≠ .silent := by
                have hsame := congrArg Delivery.ending haccepted.delivered
                rw [Delivery.behind_ending] at hsame
                exact hsame ▸ ending_ne_silent hclient
              let e := { request.exchange with
                id := stamp.id
                timing := { startedAt := stamp.acceptedAt + Int64.ofNat clock.now } }
              have hlater : (clock.after u.delay).now + waits left.script + waits u.peer.script ≤
                  (clock.after u.delay).horizon := by
                rw [Clock.after_now, Clock.after_horizon, hhorizon]
                omega
              have hended : (Closing.ofRequest request 0 e held left (clock.after u.delay)
                  (some u.peer)).Ended (left.tally + 1) (u.peer.tally + 1) :=
                Closing.ended_ofRequest hlater hends (ending_ne_silent (hservers u hmem))
              simp only [Passage.conclude, Option.bind_some, hnow, hallows, if_true]
              refine ⟨hended.closed, hended.reads.trans (Nat.add_le_add_right htally 1),
                fun server hserver => ?_⟩
              exact ⟨(hended.server server hserver).1, u, hmem, (hended.server server hserver).2⟩

/-- Connections with clients and servers that do not fall silent come to their ends, as long as they
are watched for all waits of their peers. Each of them reads from its client, and from the server
that it reached, at most once more than bytes come from there. No loop on its way goes round unless
a byte was consumed that had not arrived yet or was held back, whatever the bytes are. -/
theorem connections_end (schedule : Schedule) (stamp : Stamp) {horizon : ℕ} {clients : List Peer}
    {w : World} (hclients : ∀ client ∈ clients, Event.silence ∉ client.script)
    (hservers : ∀ u ∈ w.servers, Event.silence ∉ u.peer.script)
    (hwatch : ∀ client ∈ clients, ∀ u ∈ w.servers,
      waits client.script + u.delay + waits u.peer.script ≤ horizon) :
    Forall₂ (EndedAmong w.servers) clients (carry schedule stamp horizon clients w).1 ∧
      Move.LoopsConsume := by
  refine ⟨?_, Move.loopsConsume⟩
  have hall := (forall₂_and_left _ _).mpr ⟨fun client h => And.intro (hclients client h)
    (hwatch client h), forall₂_carry schedule stamp horizon clients w⟩
  refine hall.imp fun client c h => ?_
  obtain ⟨⟨hclient, hlong⟩, p, us, hp, hholds, rfl⟩ := h
  exact endedAmong_conclude _ hp hholds hclient hservers hlong

/-- A client that fails in the middle of the first line of a chunk. -/
def haltingClient : Peer where
  script := [.arrival (Bytes.ofAscii
    "POST http://page/ HTTP/1.1\r\nTransfer-Encoding: chunked\r\n\r\n2"), .delay 5,
    .failure "connection reset"]

/-- The connection ends with the second read, which is the one that fails. -/
theorem connections_end_halting :
    let closings := (carry .byTime ⟨"0", 0⟩ 100 [haltingClient] emptyWorld).1
    Forall₂ (EndedAmong emptyWorld.servers) [haltingClient] closings ∧
      closings.map (fun c => (c.client.closed, c.client.reads)) = [(true, 2)] := by
  have hclients : ∀ client ∈ [haltingClient], Event.silence ∉ client.script := by decide
  have hservers : ∀ u ∈ emptyWorld.servers, Event.silence ∉ u.peer.script := by decide
  have hwatch : ∀ client ∈ [haltingClient], ∀ u ∈ emptyWorld.servers,
      waits client.script + u.delay + waits u.peer.script ≤ 100 := by decide
  exact ⟨(connections_end .byTime ⟨"0", 0⟩ hclients hservers hwatch).1, by decide +kernel⟩

end Proxy

end TrafficCapture
