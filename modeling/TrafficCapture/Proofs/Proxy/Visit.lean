import TrafficCapture.Proofs.Proxy.Conversation
import TrafficCapture.Proofs.Proxy.Segmentation
import TrafficCapture.Proofs.Proxy.Shape

/-! # Visits

One connection in a world that others change too, from its first act to its last. Whatever happens
in between, it comes to what it comes to alone, among any servers where it finds the same one. -/

namespace TrafficCapture.Proxy

open Net List

/-- Leaves the peers of a connection. -/
def Dialogue.depart : (reached : Bool) → Dialogue Unit
  | false => .leave .client (.done ())
  | true => .leave .server (.leave .client (.done ()))

/-- The line to a client when a server was reached, or none. -/
def Line.facing (line : Line) : Option Server → Line
  | none => line
  | some u => { line with server := u.peer }

/-- The server that is reached, and its place. -/
def reach (host : String) (port : UInt16) (us : List Server) : Option (ℕ × Server) :=
  (claim host port us).bind fun i => us[i]?.map fun u => (i, u)

/-- A connection on its way. Once it has sought a server, it has reached one or none. -/
inductive Visit where
  | arriving (line : Line) (d : Dialogue (Except Clock Arrival))
  | exchanging (reached : Option (ℕ × Server)) (line : Line) (d : Dialogue Upshot)
  | leaving (reached : Option (ℕ × Server)) (record : Option Exchange) (clock : Clock)
      (line : Line) (d : Dialogue Unit)

namespace Visit

def start (horizon : ℕ) (client : Peer) : Visit := arriving ⟨client, {}⟩ (.arrive ⟨horizon, []⟩)

def line : Visit → Line
  | arriving line _ => line
  | exchanging _ line _ => line
  | leaving _ _ _ line _ => line

def reached : Visit → Option (ℕ × Server)
  | arriving .. => none
  | exchanging reached _ _ => reached
  | leaving reached _ _ _ _ => reached

/-- The server that was reached, as it was then. -/
def own (v : Visit) : Option Server := v.reached.map Prod.snd

/-- Where the server stands that was reached. -/
def place (v : Visit) : Option ℕ := v.reached.map Prod.fst

/-- Whether the client was heard out. -/
def heardOut : Visit → Bool
  | arriving .. => false
  | _ => true

def record : Visit → Option Exchange
  | leaving _ record _ _ _ => record
  | _ => none

theorem reached_of_place {v : Visit} {i : ℕ} (h : v.place = some i) :
    ∃ u, v.reached = some (i, u) := by
  obtain ⟨⟨j, u⟩, hreached, rfl⟩ := Option.map_eq_some_iff.mp h
  exact ⟨u, hreached⟩

theorem place_of_not_heardOut {v : Visit} (h : v.heardOut = false) : v.place = none := by
  cases v with
  | arriving => rfl
  | _ => cases h

/-- There is nothing more to come. -/
inductive Over : Visit → Prop
  | waiting (reached : Option (ℕ × Server)) (line : Line) (clock : Clock) :
      Over (exchanging reached line (.done (.waiting clock)))
  | left (reached : Option (ℕ × Server)) (record : Option Exchange) (clock : Clock) (line : Line) :
      Over (leaving reached record clock line (.done ()))

theorem Over.heardOut {v : Visit} (h : v.Over) : v.heardOut = true := by
  cases h <;> rfl

/-- One turn of a connection: one act, or one look at the world. It may record its exchange. -/
def turn (tries : ℕ) (stamp : Stamp) (w : World) : Visit → Visit × World × Option Exchange
  | arriving line (.done (.error clock)) =>
    (leaving none none clock line (.depart false), w, none)
  | arriving line (.done (.ok a)) =>
    let found := reach a.request.destination.host a.request.destination.port w.servers
    (exchanging found (line.facing (found.map Prod.snd))
        (.conclude tries stamp a ((found.map Prod.snd).map Server.delay)),
      ((Passage.under a.request a.held line.client a.clock none).seek w).2, none)
  | arriving line d => (arriving (d.step line).2 (d.step line).1, w, none)
  | exchanging found line (.done (.waiting clock)) =>
    (exchanging found line (.done (.waiting clock)), w, none)
  | exchanging found line (.done (.ended record clock)) =>
    (leaving found record clock line (.depart found.isSome), record.elim w w.record, record)
  | exchanging found line d => (exchanging found (d.step line).2 (d.step line).1, w, none)
  | leaving found record clock line d =>
    (leaving found record clock (d.step line).2 (d.step line).1, w, none)

end Visit

/-! ## What a connection comes to -/

/-- What a connection comes to with one server or with none, when its client was heard out. -/
def fateOf (tries : ℕ) (stamp : Stamp) (own : Option Server) :
    Except Clock Arrival × Line → Closing
  | (.error clock, line) => ⟨finish line.client, none, none, clock⟩
  | (.ok a, line) =>
    concluded own.isSome
      ((Dialogue.conclude tries stamp a (own.map Server.delay)).play (line.facing own))

/-- What a connection comes to with one server or with none. -/
def fate (tries horizon : ℕ) (client : Peer) (stamp : Stamp) (own : Option Server) : Closing :=
  fateOf tries stamp own ((Dialogue.arrive ⟨horizon, []⟩).play ⟨client, {}⟩)

/-- The server that a client asks for, if it is heard out. -/
def targetOf (horizon : ℕ) (client : Peer) : Option (String × UInt16) :=
  (Passage.ofClient horizon client).target?

/-- Where a client finds the server that it asks for. -/
def placeIn (horizon : ℕ) (client : Peer) (us : List Server) : Option ℕ :=
  (targetOf horizon client).bind fun target => claim target.1 target.2 us

/-- What a client finds among servers: one of them or none. -/
def Finds (horizon : ℕ) (client : Peer) (us : List Server) (own : Option Server) : Prop :=
  (placeIn horizon client us).bind (us[·]?) = own

section

variable {horizon : ℕ} {client left : Peer} {clock : Clock}

theorem placeIn_of_over (h : opening client ⟨horizon, []⟩ = .over left clock) (us : List Server) :
    placeIn horizon client us = none := by
  simp [placeIn, targetOf, Passage.ofClient, h, Passage.target?]

theorem placeIn_of_wanted {request : Request} {held : Bytes}
    (h : opening client ⟨horizon, []⟩ = .wanted request held left clock) (us : List Server) :
    placeIn horizon client us = claim request.destination.host request.destination.port us := by
  simp [placeIn, targetOf, Passage.ofClient, h, Passage.target?]

theorem placeIn_of_finds_none {us : List Server} (h : Finds horizon client us none) :
    placeIn horizon client us = none := by
  cases hplace : placeIn horizon client us with
  | none => rfl
  | some i =>
      obtain ⟨target, -, hclaim⟩ := Option.bind_eq_some_iff.mp hplace
      obtain ⟨u, hu, -⟩ := getElem?_of_claim hclaim
      rw [Finds, hplace, Option.bind_some, hu] at h
      cases h

theorem opening_eq (horizon : ℕ) (client : Peer) :
    opening client ⟨horizon, []⟩ = arrived ((Dialogue.arrive ⟨horizon, []⟩).play ⟨client, {}⟩) :=
  (arrived_arrive ⟨horizon, []⟩ ⟨client, {}⟩).1.symm

end

/-- A server that is reached was not reached before and has the name that is asked for. -/
theorem claim_of_reach {host : String} {port : UInt16} {us : List Server} {i : ℕ} {u : Server}
    (h : reach host port us = some (i, u)) :
    claim host port us = some i ∧ us[i]? = some u ∧ u.connected = false ∧
      claim host port [u] = some 0 := by
  unfold reach at h
  obtain ⟨j, hclaim, hj⟩ := Option.bind_eq_some_iff.mp h
  obtain ⟨v, hv, hpair⟩ := Option.map_eq_some_iff.mp hj
  obtain ⟨rfl, rfl⟩ := Prod.mk.inj hpair
  obtain ⟨u, hu, hfree, hhost, hport⟩ := getElem?_of_claim hclaim
  obtain rfl := Option.some.inj (hv.symm.trans hu)
  exact ⟨hclaim, hv, hfree, by simp [claim, hfree, hhost, hport]⟩

/-- Where a visit stands, what is left of it leads to its fate. -/
inductive Visit.Faithful (tries horizon : ℕ) (client : Peer) (stamp : Stamp) : Visit → Prop
  | arriving {line : Line} {d : Dialogue (Except Clock Arrival)}
      (play : d.play line = (Dialogue.arrive ⟨horizon, []⟩).play ⟨client, {}⟩) :
      Faithful tries horizon client stamp (.arriving line d)
  | exchanging {found : Option (ℕ × Server)} {line : Line} {d : Dialogue Upshot}
      (finds : Finds horizon client (found.map Prod.snd).toList (found.map Prod.snd))
      (play : concluded found.isSome (d.play line) =
        fate tries horizon client stamp (found.map Prod.snd)) :
      Faithful tries horizon client stamp (.exchanging found line d)
  | leaving {found : Option (ℕ × Server)} {record : Option Exchange} {clock : Clock} {line : Line}
      {d : Dialogue Unit}
      (finds : Finds horizon client (found.map Prod.snd).toList (found.map Prod.snd))
      (play : (⟨(d.play line).2.client, found.map fun _ => (d.play line).2.server, record, clock⟩ :
        Closing) = fate tries horizon client stamp (found.map Prod.snd)) :
      Faithful tries horizon client stamp (.leaving found record clock line d)

theorem Visit.Faithful.finds {tries horizon : ℕ} {client : Peer} {stamp : Stamp} {v : Visit}
    (h : v.Faithful tries horizon client stamp) : Finds horizon client v.own.toList v.own := by
  cases h with
  | arriving play =>
      unfold Finds placeIn
      cases targetOf horizon client <;> rfl
  | exchanging finds play => exact finds
  | leaving finds play => exact finds

/-- The server that was reached is the one that the client asks for. -/
theorem Visit.Faithful.target {tries horizon : ℕ} {client : Peer} {stamp : Stamp} {v : Visit}
    (h : v.Faithful tries horizon client stamp) {i : ℕ} {u : Server}
    (hreached : v.reached = some (i, u)) : targetOf horizon client = some (u.host, u.port) := by
  have hfinds := h.finds
  rw [Visit.own, hreached] at hfinds
  obtain ⟨j, hplace, -⟩ := Option.bind_eq_some_iff.mp hfinds
  obtain ⟨⟨host, port⟩, htarget, hclaim⟩ := Option.bind_eq_some_iff.mp hplace
  obtain ⟨z, hz, -, hhost, hport⟩ := getElem?_of_claim hclaim
  have hu : z = u := mem_singleton.mp (mem_of_getElem? hz)
  rw [htarget, ← hu, hhost, hport]

theorem Visit.faithful_start (tries horizon : ℕ) (client : Peer) (stamp : Stamp) :
    (start horizon client).Faithful tries horizon client stamp :=
  .arriving rfl

/-- Alone with what it has reached, a client finds it again. -/
theorem finds_reach {horizon : ℕ} {client left : Peer} {request : Request} {held : Bytes}
    {clock : Clock} (hopen : opening client ⟨horizon, []⟩ = .wanted request held left clock)
    (us : List Server) :
    let own := (reach request.destination.host request.destination.port us).map Prod.snd
    Finds horizon client own.toList own := by
  intro own
  unfold Finds
  rw [placeIn_of_wanted hopen]
  cases hreach : reach request.destination.host request.destination.port us with
  | none => simp [own, hreach]
  | some found => simp [own, hreach, (claim_of_reach hreach).2.2.2]

/-- A turn in whatever world leaves the fate of a connection as it is. -/
theorem Visit.Faithful.turn {tries horizon : ℕ} {client : Peer} {stamp : Stamp} {v : Visit}
    (h : v.Faithful tries horizon client stamp) (w : World) :
    (v.turn tries stamp w).1.Faithful tries horizon client stamp := by
  cases h with
  | arriving play =>
      rename_i line d
      cases d with
      | done found =>
          cases found with
          | error clock =>
              have hopen := opening_eq horizon client
              rw [← play] at hopen
              refine .leaving ?_ ?_
              · simp [Finds, placeIn_of_over hopen]
              · rw [fate, ← play]
                rfl
          | ok a =>
              have hopen := opening_eq horizon client
              rw [← play] at hopen
              refine .exchanging (finds_reach hopen w.servers) ?_
              rw [fate, ← play]
              cases reach a.request.destination.host a.request.destination.port w.servers <;> rfl
      | _ => exact .arriving ((Dialogue.play_step _ _).trans play)
  | exchanging finds play =>
      rename_i found line d
      cases d with
      | done upshot =>
          cases upshot with
          | waiting clock => exact .exchanging finds play
          | ended record clock =>
              refine .leaving finds (Eq.trans ?_ play)
              cases found <;> rfl
      | _ => exact .exchanging finds (by rw [Dialogue.play_step]; exact play)
  | leaving finds play =>
      refine .leaving finds ?_
      rw [Dialogue.play_step]
      exact play

theorem map_fst_reach (host : String) (port : UInt16) (us : List Server) :
    (reach host port us).map Prod.fst = claim host port us := by
  unfold reach
  cases hclaim : claim host port us with
  | none => rfl
  | some i =>
      obtain ⟨u, hu, -⟩ := getElem?_of_claim hclaim
      simp [hu]

/-- Where the server of a client stands after a turn. -/
inductive Visit.Placed (horizon : ℕ) (client : Peer) (w : World) (v v' : Visit) : Prop
  | same (heard : v'.heardOut = v.heardOut) (place : v'.place = v.place)
  /-- The client was heard out, and finds its server where that stands by now. -/
  | found (unheard : v.heardOut = false) (place : v'.place = placeIn horizon client w.servers)

theorem Visit.Faithful.placed {tries horizon : ℕ} {client : Peer} {stamp : Stamp} {v : Visit}
    (h : v.Faithful tries horizon client stamp) (w : World) :
    v.Placed horizon client w (v.turn tries stamp w).1 := by
  cases h with
  | arriving play =>
      rename_i line d
      cases d with
      | done found =>
          have hopen := opening_eq horizon client
          rw [← play] at hopen
          cases found with
          | error clock => exact .found rfl (placeIn_of_over hopen _).symm
          | ok a =>
              refine .found rfl ?_
              rw [placeIn_of_wanted hopen]
              exact map_fst_reach ..
      | _ => exact .same rfl rfl
  | exchanging finds play =>
      rename_i found line d
      cases d with
      | done upshot => cases upshot <;> exact .same rfl rfl
      | _ => exact .same rfl rfl
  | leaving finds play => exact .same rfl rfl

/-! ## What a turn does to the world -/

/-- All that a turn does to the world: it reaches a server that nobody has reached, or records an
exchange. -/
structure Visit.Turned (v : Visit) (w : World) (v' : Visit) (w' : World)
    (recorded : Option Exchange) : Prop where
  later : ServersLater w.servers w'.servers
  kept : ∀ (i : ℕ) (u : Server), w.servers[i]? = some u → u.connected = true →
    w'.servers[i]? = some u
  reached : ∀ i u, v'.reached = some (i, u) → v.reached = some (i, u) ∨
    (w.servers[i]? = some u ∧ u.connected = false ∧
      w'.servers[i]? = some { u with connected := true })
  taken : ∀ (i : ℕ) (u : Server), w'.servers[i]? = some u →
    w.servers[i]? = some u ∨ v'.place = some i
  record : v'.record.toList = v.record.toList ++ recorded.toList
  registry : w'.registry = (recorded.elim w w.record).registry

theorem Visit.Turned.still {v v' : Visit} (w : World) (hreached : v'.reached = v.reached)
    (hrecord : v'.record = v.record) : v.Turned w v' w none :=
  ⟨.refl _, fun _ _ h _ => h, fun i u h => .inl (hreached ▸ h), fun _ _ h => .inl h,
    by simp [hrecord], rfl⟩

theorem Visit.turned (tries : ℕ) (stamp : Stamp) (w : World) (v : Visit) :
    v.Turned w (v.turn tries stamp w).1 (v.turn tries stamp w).2.1 (v.turn tries stamp w).2.2 := by
  cases v with
  | arriving line d =>
      cases d with
      | done found =>
          cases found with
          | error clock => exact .still w rfl rfl
          | ok a =>
              simp only [Visit.turn, Passage.seek]
              refine ⟨?_, fun i u hu hconnected => ?_, fun i u hreach => .inr ?_,
                fun i u hu => ?_, rfl, rfl⟩
              · split
                · exact .refl _
                · exact serversLater_modify fun _ _ => ⟨rfl, rfl, rfl⟩
              · split
                · exact hu
                · rename_i j hclaim
                  obtain ⟨z, hz, hfree, -⟩ := getElem?_of_claim hclaim
                  have hne : j ≠ i := by
                    rintro rfl
                    obtain rfl := Option.some.inj (hu.symm.trans hz)
                    cases hfree.symm.trans hconnected
                  exact (getElem?_modify_ne _ _ hne).trans hu
              · obtain ⟨hclaim, hu, hfree, -⟩ := claim_of_reach hreach
                refine ⟨hu, hfree, ?_⟩
                simp [hclaim, hu]
              · have hplace := map_fst_reach a.request.destination.host
                  a.request.destination.port w.servers
                cases hclaim : claim a.request.destination.host a.request.destination.port
                    w.servers with
                | none => exact .inl (by simpa [hclaim] using hu)
                | some j =>
                    by_cases hji : j = i
                    · exact .inr (by rw [← hji, ← hclaim]; exact hplace)
                    · refine .inl ?_
                      simpa [hclaim, getElem?_modify_ne _ _ hji] using hu
      | _ => exact .still w rfl rfl
  | exchanging found line d =>
      cases d with
      | done upshot =>
          cases upshot with
          | waiting clock => exact .still w rfl rfl
          | ended record clock =>
              have hframe := record_elim w (v := w) record rfl
              simp only [Visit.turn]
              refine ⟨?_, fun i u hu _ => ?_, fun i u hreach => .inl hreach,
                fun i u hu => .inl ?_, rfl, rfl⟩
              · rw [hframe.1]
                exact .refl _
              · rwa [hframe.1]
              · rwa [hframe.1] at hu
      | _ => exact .still w rfl rfl
  | leaving found record clock line d => exact .still w rfl rfl

/-- Where only servers of other names were reached, a client finds its server where it would have
found it before. -/
theorem placeIn_later {horizon : ℕ} {client : Peer} {us us' : List Server}
    (hlater : ServersLater us us')
    (htaken : ∀ (i : ℕ) (u : Server), us'[i]? = some u →
      us[i]? = some u ∨ targetOf horizon client ≠ some (u.host, u.port)) :
    placeIn horizon client us' = placeIn horizon client us := by
  unfold placeIn
  cases htarget : targetOf horizon client with
  | none => rfl
  | some target =>
      obtain ⟨host, port⟩ := target
      rw [htarget] at htaken
      simp only [Option.bind_some, claim]
      clear htarget
      induction hlater with
      | nil => rfl
      | cons hu _ ih =>
          rename_i u u' us us' hrest
          have hsame : (!u'.connected && u'.host == host && u'.port == port) =
              (!u.connected && u.host == host && u.port == port) := by
            rcases htaken 0 u' rfl with heq | hne
            · rw [Option.some.inj heq]
            · have hother : ¬ (u'.host = host ∧ u'.port = port) := by
                rintro ⟨rfl, rfl⟩
                exact hne rfl
              rw [← hu.host, ← hu.port]
              grind
          rw [findIdx?_cons, findIdx?_cons, hsame, ih fun i v hv => htaken (i + 1) v hv]

/-! ## A connection by itself -/

section

variable {tries horizon : ℕ} {client : Peer} {own : Option Server}

theorem fate_of_over {left : Peer} {clock : Clock} (stamp : Stamp)
    (hopen : opening client ⟨horizon, []⟩ = .over left clock) :
    fate tries horizon client stamp own = ⟨left, none, none, clock⟩ := by
  rw [opening_eq] at hopen
  unfold fate
  rcases harrive : (Dialogue.arrive ⟨horizon, []⟩).play ⟨client, {}⟩ with ⟨later | a, line⟩
  · rw [harrive] at hopen
    cases hopen
    rfl
  · rw [harrive] at hopen
    cases hopen

/-- Whoever has found a server comes to what it comes to with that server. -/
theorem fate_of_wanted {request : Request} {held : Bytes} {left : Peer} {clock : Clock}
    (stamp : Stamp) (hopen : opening client ⟨horizon, []⟩ = .wanted request held left clock)
    (hclient : (delivery client.script).bytes.length < tries)
    (hserver : ∀ u ∈ own, (delivery u.peer.script).bytes.length < tries)
    (found : Option ℕ) (us : List Server)
    (hfound : found.bind (us[·]?) = own.map fun u => { u with connected := true }) :
    fate tries horizon client stamp own =
      Passage.conclude stamp us (.under request held left clock found) := by
  obtain ⟨raw, haccepted⟩ := accepted_of_opening hopen
  have hline := (arrived_arrive ⟨horizon, []⟩ ⟨client, {}⟩).2
  rw [opening_eq] at hopen
  unfold fate
  rcases harrive : (Dialogue.arrive ⟨horizon, []⟩).play ⟨client, {}⟩ with ⟨later | a, line⟩
  · rw [harrive] at hopen
    cases hopen
  · rw [harrive] at hopen hline
    obtain ⟨rfl, rfl, rfl, rfl⟩ := Opening.wanted.inj hopen
    have hheld : (a.held ++ (delivery line.client.script).bytes).length < tries := by
      rw [haccepted.delivered, Delivery.behind_bytes, append_assoc, length_append] at hclient
      omega
    cases own with
    | none =>
        have hempty : (delivery line.server.script).bytes.length < tries := by
          rw [show line.server = {} from hline]
          exact Nat.zero_lt_of_lt hclient
        exact concluded_conclude stamp a found us none line hfound (fun u hu => by cases hu) hheld
          hempty
    | some u =>
        exact concluded_conclude stamp a found us (some { u with connected := true })
          (line.facing (some u)) hfound (fun v hv => by cases hv; rfl) hheld (hserver u rfl)

end

/-- The world with other servers, before any time has passed. -/
def World.among (w : World) (us : List Server) : World := { w with servers := us, elapsed := 0 }

/-- The peers of servers, after the one at some place was put back as it is by then. -/
def peersAfter (us : List Server) : (place : Option ℕ) → Option Peer → List Peer
  | some i, some server => (us.map Server.peer).set i server
  | _, _ => us.map Server.peer

theorem Stamp.at_start (stamp : Stamp) :
    { stamp with acceptedAt := stamp.acceptedAt + Int64.ofNat 0 } = stamp := by
  cases stamp
  simp

/-- What comes to pass among servers with one connection alone. -/
structure CarriedAlone (horizon : ℕ) (w : World) (client : Peer) (us : List Server) (c : Closing)
    (run : Closing × World) : Prop where
  closing : run.1 = c
  servers : run.2.servers.map Server.peer = peersAfter us (placeIn horizon client us) c.server
  registry : run.2.registry = w.registry

theorem settled_peers {w : World} {us : List Server} {i : ℕ}
    (h : w.servers = us.modify i fun u => { u with connected := true }) {request : Request}
    {held : Bytes} {p : Peer} (clock : Clock) (c : Closing) :
    (settleOne w (.under request held p clock (some i)) c).servers.map Server.peer =
      peersAfter us (some i) c.server := by
  have hsame : w.servers.map Server.peer = us.map Server.peer := by
    refine ext_getElem? fun j => ?_
    rw [h, getElem?_map, getElem?_map, getElem?_modify]
    cases us[j]? with
    | none => rfl
    | some u => split <;> rfl
  unfold settleOne peersAfter
  cases c.server with
  | none => exact hsame
  | some server =>
      rw [← hsame]
      refine ext_getElem? fun j => ?_
      simp only [World.settle, getElem?_map, getElem?_modify, getElem?_set, length_map]
      grind

section

variable {tries horizon : ℕ} {client : Peer} {us : List Server} {own : Option Server}

theorem carriedAlone (stamp : Stamp) (w : World) (hfinds : Finds horizon client us own)
    (hclient : (delivery client.script).bytes.length < tries)
    (hserver : ∀ u ∈ own, (delivery u.peer.script).bytes.length < tries) :
    CarriedAlone horizon w client us (fate tries horizon client stamp own)
      (carryOne stamp horizon client (w.among us)) := by
  unfold carryOne Passage.ofClient
  cases hopen : opening client ⟨horizon, []⟩ with
  | «over» left clock =>
      rw [fate_of_over stamp hopen]
      exact ⟨rfl, by rw [placeIn_of_over hopen]; rfl, rfl⟩
  | wanted request held left clock =>
      have hplace := placeIn_of_wanted hopen us
      have hfate := fate_of_wanted stamp hopen hclient hserver
      rw [Finds, hplace] at hfinds
      simp only [Passage.seek, World.among, Stamp.at_start]
      cases hclaim : claim request.destination.host request.destination.port us with
      | none =>
          rw [hclaim] at hfinds hplace
          have hclosing := hfate none us (by rw [← hfinds]; rfl)
          exact ⟨hclosing.symm, by rw [hplace]; rfl, rfl⟩
      | some i =>
          rw [hclaim] at hfinds hplace
          have hclosing := hfate (some i) (us.modify i fun u => { u with connected := true })
            (by rw [← hfinds]; simp)
          refine ⟨hclosing.symm, ?_, (settleOne_frame _ _ _).1⟩
          rw [hclosing, hplace]
          exact settled_peers rfl _ _

/-- What a connection comes to alone among servers. -/
structure Alone (horizon : ℕ) (w : World) (stamp : Stamp) (client : Peer) (us : List Server)
    (c : Closing) : Prop where
  clients : (serve stamp horizon true [.ok client] (w.among us)).1 = [c.client]
  servers : (serve stamp horizon true [.ok client] (w.among us)).2.servers.map Server.peer =
    peersAfter us (placeIn horizon client us) c.server
  registry : (serve stamp horizon true [.ok client] (w.among us)).2.registry =
    (c.record.elim w w.record).registry

theorem alone_fate (stamp : Stamp) (w : World) (hfinds : Finds horizon client us own)
    (hclient : (delivery client.script).bytes.length < tries)
    (hserver : ∀ u ∈ own, (delivery u.peer.script).bytes.length < tries) :
    Alone horizon w stamp client us (fate tries horizon client stamp own) := by
  obtain ⟨hclosing, hservers, hregistry⟩ := carriedAlone stamp w hfinds hclient hserver
  have hleft := record_elim w (carryOne stamp horizon client (w.among us)).1.record hregistry
  have hserve : serve stamp horizon true [.ok client] (w.among us) =
      serveTogether .byTime stamp horizon [client] (w.among us) := rfl
  simp only [serveTogether, carry_singleton, recordAll_singleton, map_cons, map_nil] at hserve
  rw [hclosing] at hleft hserve
  refine ⟨by rw [hserve], ?_, ?_⟩
  · rw [hserve]
    exact (congrArg _ hleft.1).trans hservers
  · rw [hserve]
    exact hleft.2.2

end

/-- A connection that found its server among others comes to what it comes to wherever it finds
that server. -/
theorem alone_conclude {tries horizon : ℕ} {client : Peer} {p : Passage} {w : World}
    {us : List Server} (stamp : Stamp) (hp : Passage.ofClient horizon client = p.before)
    (hholds : p.Holds w.servers us) (hclient : (delivery client.script).bytes.length < tries)
    (hservers : ∀ u ∈ w.servers, (delivery u.peer.script).bytes.length < tries) :
    ∃ own : Option Server, (∀ u ∈ own, u ∈ w.servers) ∧ Finds horizon client own.toList own ∧
      ∀ vs, Finds horizon client vs own →
        Alone horizon w stamp client vs (Passage.conclude stamp us p) := by
  have hfew : ∀ u ∈ (none : Option Server), (delivery u.peer.script).bytes.length < tries := by simp
  unfold Passage.ofClient at hp
  cases hopen : opening client ⟨horizon, []⟩ with
  | «over» left clock =>
      rw [hopen] at hp
      refine ⟨none, by simp, by simp [Finds, placeIn_of_over hopen], fun vs hfinds => ?_⟩
      have halone := alone_fate stamp w hfinds hclient hfew
      rw [fate_of_over stamp hopen] at halone
      cases p with
      | «over» => cases hp; exact halone
      | under => cases hp
  | wanted request held left clock =>
      rw [hopen] at hp
      cases p with
      | «over» => cases hp
      | under request' held' left' clock' found =>
          cases hp
          cases found with
          | none =>
              refine ⟨none, by simp, by simp [Finds], fun vs hfinds => ?_⟩
              rw [← fate_of_wanted stamp hopen hclient hfew none us rfl]
              exact alone_fate stamp w hfinds hclient hfew
          | some i =>
              obtain ⟨u, hu, hfree, hhost, hport, hnow⟩ := hholds i rfl
              have hmem := mem_of_getElem? hu
              have hserver : ∀ v ∈ some u, (delivery v.peer.script).bytes.length < tries := by
                rintro v ⟨⟩
                exact hservers u hmem
              have hfound : Finds horizon client [u] (some u) := by
                simp [Finds, placeIn_of_wanted hopen, claim, hfree, hhost, hport]
              refine ⟨some u, by rintro v ⟨⟩; exact hmem, hfound, fun vs hfinds => ?_⟩
              rw [← fate_of_wanted stamp hopen hclient hserver (some i) us hnow]
              exact alone_fate stamp w hfinds hclient hserver

/-- Connections that are carried at once come each to what it comes to alone, in whatever order
they take their turns. -/
theorem carry_alone {tries : ℕ} (schedule : Schedule) (stamp : Stamp) (horizon : ℕ)
    {clients : List Peer} {w : World}
    (hclients : ∀ client ∈ clients, (delivery client.script).bytes.length < tries)
    (hservers : ∀ u ∈ w.servers, (delivery u.peer.script).bytes.length < tries) :
    Forall₂ (fun client c => ∃ own : Option Server, (∀ u ∈ own, u ∈ w.servers) ∧
        Finds horizon client own.toList own ∧ ∀ vs, Finds horizon client vs own →
          Alone horizon w { stamp with acceptedAt := stamp.acceptedAt + Int64.ofNat w.elapsed }
            client vs c)
      clients (carry schedule stamp horizon clients w).1 := by
  have hall := (forall₂_and_left _ _).mpr ⟨hclients, forall₂_carry schedule stamp horizon clients w⟩
  refine hall.imp fun client c h => ?_
  obtain ⟨hclient, p, us, hp, hholds, rfl⟩ := h
  exact alone_conclude _ hp hholds hclient hservers

end TrafficCapture.Proxy
