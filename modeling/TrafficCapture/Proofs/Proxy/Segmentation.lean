import TrafficCapture.Proofs.Proxy.Recut
import TrafficCapture.Proofs.Proxy.Service

/-! # Segmentation

How the bytes of a client and of a server are cut into arrivals makes no difference to what is
written to either of them, to the server that is sought and to what is recorded, whether the
exchange succeeds or fails. -/

namespace TrafficCapture.Proxy

open Net List

/-! ## Servers -/

/-- The same was done to both servers. -/
structure Server.Agrees (u u' : Server) : Prop where
  host : u.host = u'.host
  port : u.port = u'.port
  connected : u.connected = u'.connected
  peer : u.peer.Agrees u'.peer

/-- Two servers that are told apart only by how what they deliver is cut. -/
structure Server.Recut (u u' : Server) : Prop where
  host : u.host = u'.host
  port : u.port = u'.port
  delay : u.delay = u'.delay
  connected : u.connected = u'.connected
  peer : u.peer.Recut u'.peer

theorem Server.Recut.agrees {u u' : Server} (h : u.Recut u') : u.Agrees u' :=
  ⟨h.host, h.port, h.connected, h.peer.toAgrees⟩

section

variable {α β : Type} {R : α → β → Prop}

theorem rel_getElem? {as : List α} {bs : List β} (h : Forall₂ R as bs) (i : ℕ) :
    Option.Rel R as[i]? bs[i]? := by
  induction h generalizing i with
  | nil => exact .none
  | cons hab _ ih =>
      cases i with
      | zero => exact .some hab
      | succ i => exact ih i

theorem forall₂_modify {as : List α} {bs : List β} (h : Forall₂ R as bs) (f : α → α) (g : β → β)
    (hfg : ∀ a b, R a b → R (f a) (g b)) (i : ℕ) : Forall₂ R (as.modify i f) (bs.modify i g) := by
  induction h generalizing i with
  | nil => simp
  | cons hab hrest ih =>
      cases i with
      | zero => exact .cons (hfg _ _ hab) hrest
      | succ i => exact .cons hab (ih i)

end

theorem claim_eq (host : String) (port : UInt16) {us us' : List Server}
    (h : Forall₂ Server.Recut us us') : claim host port us = claim host port us' := by
  unfold claim
  induction h with
  | nil => rfl
  | cons hu _ ih => rw [findIdx?_cons, findIdx?_cons, ih, hu.host, hu.port, hu.connected]

/-! ## One connection -/

/-- One connection, carried as far as to what is recorded of it. -/
def carryOne (stamp : Stamp) (horizon : ℕ) (client : Peer) (w : World) : Closing × World :=
  let stamp := { stamp with acceptedAt := stamp.acceptedAt + Int64.ofNat w.elapsed }
  let (p, w) := (Passage.ofClient horizon client).seek w
  let c := p.conclude stamp w.servers
  (c, settleOne w p c)

theorem inOrder_singleton {α : Type} (clock : α → Option Clock) (a : α) :
    inOrder clock [a] = if (clock a).isSome then [0] else [] := by
  cases h : clock a <;> simp [inOrder, h]

theorem carry_singleton (stamp : Stamp) (horizon : ℕ) (client : Peer) (w : World) :
    carry .byTime stamp horizon [client] w =
      ([(carryOne stamp horizon client w).1], (carryOne stamp horizon client w).2) := by
  cases hp : Passage.ofClient horizon client with
  | «over» p c =>
      simp [carry, carryOne, seekAll, Schedule.byTime, inOrder_singleton, Passage.clock?, hp,
        Passage.seek]
  | under request held p c found =>
      simp [carry, carryOne, seekAll, Schedule.byTime, inOrder_singleton, Passage.clock?, hp,
        seekAt]

theorem recordAll_singleton (c : Closing) (w : World) :
    recordAll .byTime [c] w = c.record.elim w w.record := by
  cases h : c.record <;>
    simp [recordAll, Schedule.byTime, inOrder_singleton, recordAt, h]

/-- The server that a request reaches. -/
def World.Reaches (w : World) (request : Request) (u : Server) : Prop :=
  ∃ i, claim request.destination.host request.destination.port w.servers = some i ∧
    w.servers[i]? = some u

/-- Two worlds that came out of two others, and the ends of the connections that they saw. -/
structure CarriedAlike (w w' : World) (run run' : Closing × World) : Prop where
  closing : ClosingsAlike run.1 run'.1
  servers : Forall₂ Server.Agrees run.2.servers run'.2.servers
  sought : ∃ targets, run.2.sought = w.sought ++ targets ∧ run'.2.sought = w'.sought ++ targets
  registry : run.2.registry = w.registry
  registry' : run'.2.registry = w'.registry

section

variable {w w' : World} {request : Request} {held held' : Bytes} {p p' : Peer} {c c' : Clock}

theorem conclude_alike (stamp stamp' : Stamp) {us us' : List Server} (found : Option ℕ)
    (hus : Forall₂ Server.Recut us us') (h : Ahead held held' p p' c c')
    (hbody : Move.FramingFits request.framing (held ++ (delivery p.script).bytes))
    (hfits : ∀ u, found.bind (us[·]?) = some u →
      Fits (ResponseFrames request) (delivery u.peer.script).bytes) :
    ClosingsAlike (Passage.conclude stamp us (.under request held p c found))
      (Passage.conclude stamp' us' (.under request held' p' c' found)) := by
  have hreached : Option.Rel Server.Recut (found.bind (us[·]?)) (found.bind (us'[·]?)) := by
    cases found with
    | none => exact .none
    | some i => exact rel_getElem? hus i
  have he (stamp stamp' : Stamp) (c c' : Clock) :
      ({ request.exchange with
        id := stamp.id
        timing := { startedAt := stamp.acceptedAt + Int64.ofNat c.now } } : Exchange).unmarked =
      ({ request.exchange with
        id := stamp'.id
        timing := { startedAt := stamp'.acceptedAt + Int64.ofNat c'.now } } : Exchange).unmarked :=
    rfl
  unfold Passage.conclude
  simp only
  generalize found.bind (us[·]?) = reached at hreached hfits ⊢
  generalize found.bind (us'[·]?) = reached' at hreached ⊢
  cases hreached with
  | none => exact ofRequest_alike request 0 (he _ _ _ _) h .none hbody fun _ hr => by cases hr
  | some hu =>
      rename_i u u'
      have hallows : c'.allows u'.delay = c.allows u.delay := by
        rw [Clock.allows, Clock.allows, h.clock.now, h.clock.horizon, hu.delay]
      simp only [hallows]
      split
      · rename_i hin
        have hwatched : c.now + u.delay ≤ c.horizon := by simpa [Clock.allows] using hin
        have hafter : Ahead held held' p p' (c.after u.delay) (c'.after u'.delay) := by
          refine ⟨h.agrees, ?_, h.upcoming, h.ended, h.still, h.still', ?_⟩
          · rw [hu.delay]
            exact h.clock.after _
          · rwa [Clock.after_now, Clock.after_horizon]
        refine ofRequest_alike request 0 (he _ _ _ _) hafter (.some hu.peer) hbody ?_
        rintro server ⟨⟩
        exact hfits u rfl
      · exact waiting_alike h.agrees hu.peer.toAgrees h.clock

/-- Behind one connection, servers that were alike still agree. -/
theorem settleOne_agrees (found : Option ℕ) {k k' : Closing}
    (hus : Forall₂ Server.Agrees w.servers w'.servers) (hk : ClosingsAlike k k') :
    Forall₂ Server.Agrees (settleOne w (.under request held p c found) k).servers
      (settleOne w' (.under request held' p' c' found) k').servers := by
  have hserver := hk.server
  unfold settleOne
  cases found with
  | none => exact hus
  | some i =>
      generalize k.server = left at hserver ⊢
      generalize k'.server = left' at hserver ⊢
      cases hserver with
      | none => exact hus
      | some hpeer =>
          refine forall₂_modify hus _ _ ?_ i
          intro u u' hu
          exact ⟨hu.host, hu.port, hu.connected, hpeer⟩

/-- What two connections with one request find when they seek their servers. -/
structure SeekAlike (w w' : World) (request : Request) (found : Option ℕ) (us us' : List Server) :
    Prop where
  servers : Forall₂ Server.Recut us us'
  reaches : ∀ u, found.bind (us[·]?) = some u → ∃ v, w.Reaches request v ∧ u.peer = v.peer
  seek : ∀ held p c, (Passage.under request held p c none).seek w =
    (.under request held p c found, { w with
      servers := us
      sought := w.sought ++ [(request.destination.host, request.destination.port)] })
  seek' : ∀ held p c, (Passage.under request held p c none).seek w' =
    (.under request held p c found, { w' with
      servers := us'
      sought := w'.sought ++ [(request.destination.host, request.destination.port)] })

theorem seek_alike (request : Request) (hservers : Forall₂ Server.Recut w.servers w'.servers) :
    ∃ found us us', SeekAlike w w' request found us us' := by
  have hclaim := claim_eq request.destination.host request.destination.port hservers
  cases hfound : claim request.destination.host request.destination.port w.servers with
  | none =>
      rw [hfound] at hclaim
      refine ⟨none, w.servers, w'.servers, hservers, fun u hu => (by cases hu), ?_, ?_⟩
      · intro held p c
        simp only [Passage.seek, hfound]
      · intro held p c
        simp only [Passage.seek, ← hclaim]
  | some i =>
      rw [hfound] at hclaim
      let take (u : Server) : Server := { u with connected := true }
      have htaken : Forall₂ Server.Recut (w.servers.modify i take) (w'.servers.modify i take) :=
        forall₂_modify hservers take take (fun u u' hu => ⟨hu.host, hu.port, hu.delay, rfl, hu.peer⟩) i
      refine ⟨some i, w.servers.modify i take, w'.servers.modify i take, htaken, ?_, ?_, ?_⟩
      · intro u hu
        rw [Option.bind_some, getElem?_modify_eq] at hu
        obtain ⟨v, hv, rfl⟩ := Option.map_eq_some_iff.mp hu
        exact ⟨v, ⟨i, hfound, hv⟩, rfl⟩
      · intro held p c
        simp only [Passage.seek, hfound, take]
      · intro held p c
        simp only [Passage.seek, ← hclaim, take]

end

theorem carryOne_alike (stamp stamp' : Stamp) (horizon : ℕ) {client client' : Peer}
    {w w' : World} (hclient : client.Recut client')
    (hservers : Forall₂ Server.Recut w.servers w'.servers)
    (hfits : Fits RequestFrames (delivery client.script).bytes)
    (hanswers : ∀ request u, Requests (delivery client.script).bytes request →
      w.Reaches request u → Fits (ResponseFrames request) (delivery u.peer.script).bytes) :
    CarriedAlike w w' (carryOne stamp horizon client w) (carryOne stamp' horizon client' w') := by
  have hclock : (⟨horizon, []⟩ : Clock).Agrees ⟨horizon, []⟩ := ⟨rfl, rfl⟩
  have hopening := opening_alike hclient hclock (Nat.zero_le horizon) hfits
  unfold carryOne
  simp only [Passage.ofClient]
  generalize opening client ⟨horizon, []⟩ = o at hopening ⊢
  generalize opening client' ⟨horizon, []⟩ = o' at hopening ⊢
  cases hopening with
  | «over» h hc =>
      refine ⟨⟨h, .none, rfl, hc⟩, hservers.imp fun _ _ hu => hu.agrees, ⟨[], ?_⟩, rfl, rfl⟩
      simp only [Passage.seek, settleOne, append_nil, and_self]
  | wanted h requests fits =>
      rename_i request held held' p p' c c'
      obtain ⟨found, us, us', hseek⟩ := seek_alike request hservers
      simp only [hseek.seek, hseek.seek']
      have hreached (u : Server) (hu : found.bind (us[·]?) = some u) :
          Fits (ResponseFrames request) (delivery u.peer.script).bytes := by
        obtain ⟨v, hv, hpeer⟩ := hseek.reaches u hu
        rw [hpeer]
        exact hanswers request v requests hv
      have hclosing := conclude_alike
        { stamp with acceptedAt := stamp.acceptedAt + Int64.ofNat w.elapsed }
        { stamp' with acceptedAt := stamp'.acceptedAt + Int64.ofNat w'.elapsed }
        found hseek.servers h fits hreached
      have hagree := hseek.servers.imp fun _ _ hu => hu.agrees
      refine ⟨hclosing, settleOne_agrees found hagree hclosing,
        ⟨[(request.destination.host, request.destination.port)], ?_, ?_⟩, ?_, ?_⟩
      · exact (settleOne_frame _ _ _).2
      · exact (settleOne_frame _ _ _).2
      · exact (settleOne_frame _ _ _).1
      · exact (settleOne_frame _ _ _).1

/-! ## The whole run -/

/-- Two runs that cannot be told apart by what was written to the peers, by the servers that were
sought or by what was recorded, but for the marks of the record. -/
structure RunsAlike (w w' : World) (run run' : List Peer × World) : Prop where
  clients : Forall₂ Peer.Agrees run.1 run'.1
  servers : Forall₂ Server.Agrees run.2.servers run'.2.servers
  sought : ∃ targets, run.2.sought = w.sought ++ targets ∧ run'.2.sought = w'.sought ++ targets
  recorded : ∃ record record' : Option Exchange,
    record.map Exchange.unmarked = record'.map Exchange.unmarked ∧
      run.2.registry = (record.elim w w.record).registry ∧
        run'.2.registry = (record'.elim w' w'.record).registry

/-- What is left of a world in which one exchange was recorded, if any was. -/
theorem record_elim (w : World) {v : World} (record : Option Exchange)
    (h : v.registry = w.registry) :
    (record.elim v v.record).servers = v.servers ∧ (record.elim v v.record).sought = v.sought ∧
      (record.elim v v.record).registry = (record.elim w w.record).registry := by
  cases record with
  | none => exact ⟨rfl, rfl, h⟩
  | some e => exact ⟨(record_frame v e).1, (record_frame v e).2, registry_record h e⟩

/-- However the bytes of a client and of the servers are cut into arrivals, where every head and
every line of a chunked body is short enough to be waited for, a run comes to the same: what the
client and the servers receive, the server that is sought, whether an exchange is recorded, and the
record but for its marks. -/
theorem serve_recut (stamp stamp' : Stamp) (horizon : ℕ) {client client' : Peer} {w w' : World}
    (hclient : client.Recut client') (hservers : Forall₂ Server.Recut w.servers w'.servers)
    (hfits : Fits RequestFrames (delivery client.script).bytes)
    (hanswers : ∀ request u, Requests (delivery client.script).bytes request →
      w.Reaches request u → Fits (ResponseFrames request) (delivery u.peer.script).bytes) :
    RunsAlike w w' (serveTogether .byTime stamp horizon [client] w)
      (serveTogether .byTime stamp' horizon [client'] w') := by
  have h := carryOne_alike stamp stamp' horizon hclient hservers hfits hanswers
  obtain ⟨targets, hsought, hsought'⟩ := h.sought
  have hleft := record_elim w (carryOne stamp horizon client w).1.record h.registry
  have hleft' := record_elim w' (carryOne stamp' horizon client' w').1.record h.registry'
  unfold serveTogether
  simp only [carry_singleton, recordAll_singleton]
  refine ⟨?_, ?_, ⟨targets, ?_, ?_⟩, ⟨_, _, h.closing.record, hleft.2.2, hleft'.2.2⟩⟩
  · exact .cons h.closing.client .nil
  · rw [hleft.1, hleft'.1]
    exact h.servers
  · rw [hleft.2.1, hsought]
  · rw [hleft'.2.1, hsought']

/-! ## One exchange, cut in two ways -/

/-- A client that sends a request with a chunked body in one piece. -/
def wholeClient : Peer where
  script := [.arrival (Bytes.ofAscii
    "POST http://page/ HTTP/1.1\r\nTransfer-Encoding: chunked\r\n\r\n3\r\nabc\r\n0\r\n\r\n")]

/-- The same request in pieces, one of them empty. -/
def cutClient : Peer where
  script := [
    .arrival (Bytes.ofAscii "POST http://page/ HTTP/1.1\r\nTransfer-Encoding: chunked\r"),
    .arrival (Bytes.ofAscii "\n\r"), .arrival [], .arrival (Bytes.ofAscii "\n3\r\nab"),
    .arrival (Bytes.ofAscii "c\r\n0\r\n\r"), .arrival (Bytes.ofAscii "\n")]

/-- A server that breaks off in a chunk of its response. -/
def wholeServer : Server where
  host := "page"
  port := 80
  peer := { script := [.arrival (Bytes.ofAscii
    "HTTP/1.1 200 OK\r\nTransfer-Encoding: chunked\r\n\r\n4\r\nwxyz\r\n5\r\nab")] }

/-- A server that breaks off at the same place. -/
def cutServer : Server where
  host := "page"
  port := 80
  peer := { script := [
    .arrival (Bytes.ofAscii "HTTP/1.1 200 OK\r\nTransfer-Encoding: chunked\r\n\r\n4\r\nw"),
    .arrival (Bytes.ofAscii "xyz\r"), .arrival (Bytes.ofAscii "\n5"),
    .arrival (Bytes.ofAscii "\r\nab")] }

/-- A world with an empty store and one server. -/
def worldOf (u : Server) : World := ⟨[u], [], (Registry.new.init 5).2, 0⟩

theorem serve_recut_cut :
    RunsAlike (worldOf wholeServer) (worldOf cutServer)
      (serveTogether .byTime ⟨"0", 0⟩ 100 [wholeClient] (worldOf wholeServer))
      (serveTogether .byTime ⟨"1", 9⟩ 100 [cutClient] (worldOf cutServer)) := by
  have hclient : wholeClient.Recut cutClient := by
    refine ⟨⟨?_, ?_, ?_, ?_, ?_⟩, ?_, ?_, ?_, ?_⟩ <;> decide +kernel
  have hpeer : wholeServer.peer.Recut cutServer.peer := by
    refine ⟨⟨?_, ?_, ?_, ?_, ?_⟩, ?_, ?_, ?_, ?_⟩ <;> decide +kernel
  have hserver : wholeServer.Recut cutServer := ⟨rfl, rfl, rfl, rfl, hpeer⟩
  have hsent : (delivery wholeClient.script).bytes.length ≤ headLimit := by decide +kernel
  have hcame : (delivery wholeServer.peer.script).bytes.length ≤ headLimit := by decide +kernel
  refine serve_recut _ _ 100 hclient (.cons hserver .nil) (fits_of_length_le hsent) ?_
  rintro request u - ⟨i, -, hu⟩
  have hmem : u ∈ [wholeServer] := mem_of_getElem? hu
  rw [mem_singleton] at hmem
  rw [hmem]
  exact fits_of_length_le hcame

end TrafficCapture.Proxy
