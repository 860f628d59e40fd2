import TrafficCapture.Proofs.Proxy.Body
import TrafficCapture.Proofs.Proxy.Head
import TrafficCapture.Proxy.Service

/-! # What is recorded of a connection

A connection is recorded once if it came as far as a response. If it is given up before, it is
recorded only if the client takes the answer that it is given up with. -/

namespace TrafficCapture.Proxy

open Net List

/-- An exchange is given up before there is a response to relay. -/
inductive GivesUp (request : Request) (held : Bytes) (client : Peer) (clock : Clock) :
    Option Peer → Breakdown → Prop where
  | unreached : GivesUp request held client clock none .unreachable
  | unsent {server : Peer} {fault : Fault} {t : Transfer}
      (h : Move.request request ⟨client, server, clock, held, {}⟩ = .error (.failed fault) t) :
      GivesUp request held client clock (some server) (.ofFault fault)
  | unanswered {server : Peer} {n : ℕ} {t : Transfer} {fault : HeadFault}
      (h : Move.request request ⟨client, server, clock, held, {}⟩ = .ok n t)
      (hr : (readHead t.sink t.clock).1 = .error fault) (hf : fault ≠ .waiting) :
      GivesUp request held client clock (some server) .noResponse
  | misread {server : Peer} {n : ℕ} {t : Transfer} {raw behind : Bytes} {fault : Http.Head.Fault}
      (h : Move.request request ⟨client, server, clock, held, {}⟩ = .ok n t)
      (hr : (readHead t.sink t.clock).1 = .ok (raw, behind))
      (hh : Http.Head.response fieldLimit raw = .error fault) :
      GivesUp request held client clock (some server) .noResponse

/-- An exchange is given up for one reason at most. -/
theorem GivesUp.unique {request : Request} {held : Bytes} {client : Peer} {clock : Clock}
    {server : Option Peer} {b b' : Breakdown} (h : GivesUp request held client clock server b)
    (h' : GivesUp request held client clock server b') : b' = b := by
  cases h with
  | unreached =>
      cases h'
      rfl
  | unsent h =>
      cases h' with
      | unsent h' =>
          cases h.symm.trans h'
          rfl
      | unanswered h' => cases h.symm.trans h'
      | misread h' => cases h.symm.trans h'
  | unanswered h | misread h =>
      cases h' with
      | unsent h' => cases h.symm.trans h'
      | unanswered => rfl
      | misread => rfl

/-- How an exchange ends: it still waits, it is given up, or its response is relayed. -/
inductive Closing.Outcome (Gives : Breakdown → Prop) (client : Peer) (c : Closing) : Prop where
  | waits (hr : c.record = none) (hc : c.client.closed = client.closed)
  | gaveUp {b : Breakdown} (h : Gives b)
      (hr : c.record.isSome ↔ client.Accepts b.reply.bytes.length)
  | relayed (hr : c.record.isSome) (hn : ∀ b, ¬ Gives b)

section

variable {request : Request} {start : ℕ} {e : Exchange} {held : Bytes} {client : Peer}
  {clock : Clock}

theorem isSome_record_breakdown (b : Breakdown) (start : ℕ) (e : Exchange) (client : Peer)
    (server : Option Peer) (clock : Clock) :
    (Closing.breakdown b start e client server clock).record.isSome ↔
      client.Accepts b.reply.bytes.length := by
  rw [← client.write_fst]
  simp only [Closing.breakdown]
  split <;> simp [*]

/-- A relay that ends is recorded, whether it failed or not. -/
theorem relay_record (request : Request) (start : ℕ) (e : Exchange) (head : Http.ResponseHead)
    (held : Bytes) (client server : Peer) (clock : Clock) :
    (Closing.relay request start e head held client server clock).record.isSome ∨
      (Closing.relay request start e head held client server clock).record = none ∧
        (Closing.relay request start e head held client server clock).client.closed =
          client.closed := by
  have heffect := Move.send_effect (responseHeadBytes head) none
    (Framing.ofResponse (request.method == .head) head.status head.headers)
    ⟨server, client, clock, held, {}⟩
  cases hrelay : Move.response head
      (Framing.ofResponse (request.method == .head) head.status head.headers)
      ⟨server, client, clock, held, {}⟩ with
  | ok n t =>
      simp only [Closing.relay, hrelay]
      exact Or.inl rfl
  | error s t =>
      cases s with
      | waiting =>
          obtain ⟨written, data, he⟩ := heffect.of_error hrelay
          simp only [Closing.relay, hrelay]
          refine Or.inr ⟨rfl, ?_⟩
          simp only [Closing.waiting]
          rw [he.sink]
      | failed fault =>
          simp only [Closing.relay, hrelay]
          exact Or.inl rfl

/-- The client is as it was, but for what was read from it and for the time. -/
theorem outcome_breakdown {Gives : Breakdown → Prop} {b : Breakdown} {client' : Peer} (h : Gives b)
    (hs : client' = { client with script := client'.script, reads := client'.reads })
    (server : Option Peer) :
    (Closing.breakdown b start e client' server clock).Outcome Gives client := by
  refine .gaveUp h ((isSome_record_breakdown b start e client' server clock).trans ?_)
  rw [hs]
  exact Iff.rfl

/-- Behind a request that was sent, the exchange ends by what comes back. -/
theorem outcome_respond {server : Peer} {n : ℕ} {t : Transfer}
    (h : Move.request request ⟨client, server, clock, held, {}⟩ = .ok n t) :
    (Closing.respond request start e t.source t.sink t.clock).Outcome
      (GivesUp request held client clock (some server)) client := by
  obtain ⟨written, data, heffect⟩ := (Move.send_effect _ _ _ _).of_ok h
  have hsame : t.source = { client with script := t.source.script, reads := t.source.reads } :=
    heffect.source
  have hclosed : t.source.closed = client.closed := by rw [hsame]
  unfold Closing.respond
  split
  · exact .waits rfl hclosed
  · rename_i fault server' later hf hread
    exact outcome_breakdown (.unanswered h (congrArg Prod.fst hread) hf) hsame _
  · rename_i raw behind server' later hread
    split
    · rename_i fault hhead
      exact outcome_breakdown (.misread h (congrArg Prod.fst hread) hhead) hsame _
    · rename_i head rest hhead
      have hn (b : Breakdown) : ¬ GivesUp request held client clock (some server) b := by
        intro hb
        cases hb with
        | unsent h' => cases h.symm.trans h'
        | unanswered h' hr =>
            cases h.symm.trans h'
            rw [hread] at hr
            cases hr
        | misread h' hr hh =>
            cases h.symm.trans h'
            rw [hread] at hr
            cases hr
            cases hhead.symm.trans hh
      rcases relay_record request start
          { e with timing := { e.timing with wait := some (later.since t.clock.now) } } head behind
          t.source server' later with hr | ⟨hr, hc⟩
      · exact .relayed hr hn
      · exact .waits hr (hc.trans hclosed)

theorem outcome_ofRequest (request : Request) (start : ℕ) (e : Exchange) (held : Bytes)
    (client : Peer) (clock : Clock) (server : Option Peer) :
    (Closing.ofRequest request start e held client clock server).Outcome
      (GivesUp request held client clock server) client := by
  cases server with
  | none => exact outcome_breakdown .unreached rfl none
  | some server =>
      cases hrequest : Move.request request ⟨client, server, clock, held, {}⟩ with
      | ok n t =>
          simp only [Closing.ofRequest, hrequest]
          exact outcome_respond hrequest
      | error s t =>
          obtain ⟨written, data, heffect⟩ := (Move.send_effect _ _ _ _).of_error hrequest
          have hsame : t.source =
              { client with script := t.source.script, reads := t.source.reads } := heffect.source
          cases s with
          | waiting =>
              simp only [Closing.ofRequest, hrequest]
              refine .waits rfl ?_
              simp only [Closing.waiting]
              rw [hsame]
          | failed fault =>
              simp only [Closing.ofRequest, hrequest]
              exact outcome_breakdown (.unsent hrequest) hsame _

end

/-! ## Connections -/

/-- A connection gives its exchange up, from what the servers were before. -/
inductive Passage.GivesUp (servers : List Server) : Passage → Breakdown → Prop where
  | unreached {request : Request} {held : Bytes} {client : Peer} {clock : Clock}
      {found : Option ℕ} {b : Breakdown} (hf : found.bind (servers[·]?) = none)
      (h : Proxy.GivesUp request held client clock none b) :
      GivesUp servers (.under request held client clock found) b
  | reached {request : Request} {held : Bytes} {client : Peer} {clock : Clock} {found : Option ℕ}
      {b : Breakdown} {u : Server} (hf : found.bind (servers[·]?) = some u)
      (ha : clock.allows u.delay = true)
      (h : Proxy.GivesUp request held client (clock.after u.delay) (some u.peer) b) :
      GivesUp servers (.under request held client clock found) b

theorem Passage.GivesUp.unique {servers : List Server} {p : Passage} {b b' : Breakdown}
    (h : p.GivesUp servers b) (h' : p.GivesUp servers b') : b' = b := by
  cases h with
  | unreached hf h =>
      cases h' with
      | unreached _ h' => exact h.unique h'
      | reached hf' => cases hf.symm.trans hf'
  | reached hf _ h =>
      cases h' with
      | unreached hf' => cases hf.symm.trans hf'
      | reached hf' _ h' =>
          cases hf.symm.trans hf'
          exact h.unique h'

theorem Closing.Outcome.imp {Gives Gives' : Breakdown → Prop} {client : Peer} {c : Closing}
    (h : c.Outcome Gives client) (hg : ∀ b, Gives b ↔ Gives' b) : c.Outcome Gives' client := by
  cases h with
  | waits hr hc => exact .waits hr hc
  | gaveUp hb hr => exact .gaveUp ((hg _).mp hb) hr
  | relayed hr hn => exact .relayed hr fun b hb => hn b ((hg b).mpr hb)

theorem outcome_conclude (stamp : Stamp) (servers : List Server) (request : Request)
    (held : Bytes) (client : Peer) (clock : Clock) (found : Option ℕ) :
    (Passage.conclude stamp servers (.under request held client clock found)).Outcome
      ((Passage.under request held client clock found).GivesUp servers) client := by
  cases hfound : found.bind (servers[·]?) with
  | none =>
      simp only [Passage.conclude, hfound]
      refine (outcome_ofRequest request 0 _ held client clock none).imp fun b =>
        ⟨.unreached hfound, ?_⟩
      rintro (⟨-, h⟩ | ⟨hf, -, -⟩)
      · exact h
      · cases hfound.symm.trans hf
  | some u =>
      by_cases hreach : clock.allows u.delay = true
      · simp only [Passage.conclude, hfound, hreach, if_true]
        refine (outcome_ofRequest request 0 _ held client _ (some u.peer)).imp fun b =>
          ⟨.reached hfound hreach, ?_⟩
        rintro (⟨hf, -⟩ | ⟨hf, -, h⟩)
        · cases hfound.symm.trans hf
        · cases hfound.symm.trans hf
          exact h
      · simp only [Passage.conclude, hfound, hreach]
        exact .waits rfl rfl

/-- A connection that has ended is recorded, unless its exchange was given up and the client did
not take the answer. -/
theorem Closing.Outcome.record_eq_none_iff {Gives : Breakdown → Prop} {client : Peer}
    {c : Closing} (h : c.Outcome Gives client) (hu : ∀ b b', Gives b → Gives b' → b' = b)
    (hfresh : client.closed = false) (hended : c.client.closed = true) :
    c.record = none ↔ ∃ b, Gives b ∧ ¬ client.Accepts b.reply.bytes.length := by
  cases h with
  | waits hr hc =>
      rw [hc, hfresh] at hended
      cases hended
  | gaveUp hb hr =>
      rw [← Option.not_isSome_iff_eq_none, hr]
      constructor
      · exact fun hn => ⟨_, hb, hn⟩
      · rintro ⟨b', hb', hn⟩
        rwa [hu _ _ hb hb'] at hn
  | relayed hr hn =>
      constructor
      · intro hnone
        rw [hnone] at hr
        cases hr
      · rintro ⟨b, hb, -⟩
        exact (hn b hb).elim

end TrafficCapture.Proxy
