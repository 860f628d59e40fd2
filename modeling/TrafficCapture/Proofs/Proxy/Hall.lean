import TrafficCapture.Proofs.Proxy.Visit

/-! # Connections side by side

Connections that are accepted at any time and take their turns in any order. They share nothing but
the servers, each of which only one of them reaches, and the current store, to which they append in
the order in which they record. -/

namespace TrafficCapture.Proxy

open Net List

/-- A client that was accepted, and how far its connection is. -/
structure Guest where
  stamp : Stamp
  client : Peer
  visit : Visit

/-- All connections that there are, and what was recorded by which of them, in order. -/
structure Hall where
  world : World
  guests : List Guest := []
  log : List (ℕ × Exchange) := []

namespace Hall

inductive Event where
  | accept (attempt : Except String (Stamp × Peer))
  /-- The connection at one place takes its turn. -/
  | turn (a : ℕ)

def accept (horizon : ℕ) (h : Hall) : Except String (Stamp × Peer) → Hall
  | .error _ => h
  | .ok (stamp, client) => { h with guests := h.guests ++ [⟨stamp, client, .start horizon client⟩] }

def turn (tries : ℕ) (h : Hall) (a : ℕ) : Hall :=
  match h.guests[a]? with
  | none => h
  | some g =>
    let (visit, world, recorded) := g.visit.turn tries g.stamp h.world
    { world
      guests := h.guests.set a { g with visit }
      log := h.log ++ recorded.toList.map fun e => (a, e) }

def happen (tries horizon : ℕ) (h : Hall) : Event → Hall
  | .accept attempt => h.accept horizon attempt
  | .turn a => h.turn tries a

def run (tries horizon : ℕ) (h : Hall) (events : List Event) : Hall :=
  events.foldl (happen tries horizon) h

/-- What the connection at one place has recorded. -/
def recordedBy (h : Hall) (a : ℕ) : List Exchange :=
  h.log.filterMap fun entry => if entry.1 = a then some entry.2 else none

end Hall

/-- No other client asks for the same server. -/
def Unrivalled (horizon : ℕ) (clients : List Peer) (a : ℕ) : Prop :=
  ∀ (b : ℕ) (client other : Peer) (target : String × UInt16), clients[a]? = some client →
    clients[b]? = some other → targetOf horizon client = some target →
      targetOf horizon other = some target → a = b

theorem Unrivalled.of_append {horizon : ℕ} {clients more : List Peer} {a : ℕ}
    (h : Unrivalled horizon (clients ++ more) a) : Unrivalled horizon clients a :=
  fun b client other target ha hb => h b client other target
    (getElem?_append_left (List.getElem?_eq_some_iff.mp ha).1 ▸ ha)
    (getElem?_append_left (List.getElem?_eq_some_iff.mp hb).1 ▸ hb)

/-! ## What holds at every moment -/

/-- What holds of all connections behind a world. -/
structure Hall.Sound (tries horizon : ℕ) (w : World) (h : Hall) : Prop where
  later : ServersLater w.servers h.world.servers
  registry : h.world.registry = ((h.log.map Prod.snd).foldl World.record w).registry
  faithful : ∀ g ∈ h.guests, g.visit.Faithful tries horizon g.client g.stamp
  reached : ∀ g ∈ h.guests, ∀ i u, g.visit.reached = some (i, u) →
    w.servers[i]? = some u ∧ h.world.servers[i]? = some { u with connected := true }
  apart : ∀ (a b : ℕ) (g k : Guest) (i : ℕ), h.guests[a]? = some g → h.guests[b]? = some k →
    g.visit.place = some i → k.visit.place = some i → a = b
  taken : ∀ (i : ℕ) (u : Server), h.world.servers[i]? = some u →
    w.servers[i]? = some u ∨ ∃ g ∈ h.guests, g.visit.place = some i
  sought : ∀ (a : ℕ) (g : Guest), h.guests[a]? = some g → g.visit.heardOut = true →
    Unrivalled horizon (h.guests.map Guest.client) a →
      g.visit.place = placeIn horizon g.client w.servers
  recorded : ∀ (a : ℕ) (g : Guest), h.guests[a]? = some g →
    h.recordedBy a = g.visit.record.toList
  known : ∀ entry ∈ h.log, entry.1 < h.guests.length

theorem Hall.sound_open (tries horizon : ℕ) (w : World) : Hall.Sound tries horizon w ⟨w, [], []⟩ where
  later := .refl _
  registry := rfl
  faithful := fun _ hg => by cases hg
  reached := fun _ hg => by cases hg
  apart := fun _ _ _ _ _ hg => by cases hg
  taken := fun _ _ hu => .inl hu
  sought := fun _ _ hg => by cases hg
  recorded := fun _ _ hg => by cases hg
  known := fun _ he => by cases he

section

variable {tries horizon : ℕ} {w : World} {h : Hall}

theorem Hall.Sound.accept (hs : h.Sound tries horizon w) (attempt : Except String (Stamp × Peer)) :
    (h.accept horizon attempt).Sound tries horizon w := by
  cases attempt with
  | error reason => exact hs
  | ok arrived =>
      obtain ⟨stamp, client⟩ := arrived
      -- a new connection has neither reached a server nor recorded anything
      have hguest (a : ℕ) (g : Guest)
          (hg : (h.guests ++ [⟨stamp, client, .start horizon client⟩])[a]? = some g) :
          h.guests[a]? = some g ∨
            a = h.guests.length ∧ g = ⟨stamp, client, .start horizon client⟩ := by
        rcases Nat.lt_trichotomy a h.guests.length with hlt | rfl | hgt
        · exact .inl (by rwa [getElem?_append_left hlt] at hg)
        · exact .inr ⟨rfl, by simpa using hg.symm⟩
        · rw [getElem?_eq_none (by simp; omega)] at hg
          cases hg
      refine ⟨hs.later, hs.registry, fun g hg => ?_, fun g hg => ?_, ?_, fun i u hu => ?_,
        fun a g hg hheard halone => ?_, fun a g hg => ?_, ?_⟩
      · rcases mem_append.mp hg with hold | hnew
        · exact hs.faithful g hold
        · rw [mem_singleton.mp hnew]
          exact Visit.faithful_start ..
      · rcases mem_append.mp hg with hold | hnew
        · exact hs.reached g hold
        · rw [mem_singleton.mp hnew]
          intro i u hi
          cases hi
      · intro a b g k i hg hk hgi hki
        rcases hguest a g hg with hg | ⟨-, rfl⟩
        · rcases hguest b k hk with hk | ⟨-, rfl⟩
          · exact hs.apart a b g k i hg hk hgi hki
          · cases hki
        · cases hgi
      · refine (hs.taken i u hu).imp_right ?_
        rintro ⟨g, hg, hgi⟩
        exact ⟨g, mem_append_left _ hg, hgi⟩
      · rcases hguest a g hg with hold | ⟨-, rfl⟩
        · rw [Hall.accept, map_append] at halone
          exact hs.sought a g hold hheard halone.of_append
        · cases hheard
      · rcases hguest a g hg with hold | ⟨rfl, rfl⟩
        · exact hs.recorded a g hold
        · refine filterMap_eq_nil_iff.mpr fun entry hentry => if_neg ?_
          exact Nat.ne_of_lt (hs.known entry hentry)
      · intro entry hentry
        have hlt := hs.known entry hentry
        simp only [Hall.accept, length_append, length_singleton]
        omega

theorem getElem?_set_cases {gs : List Guest} {a b : ℕ} {g k : Guest}
    (h : (gs.set a g)[b]? = some k) : (b = a ∧ k = g) ∨ (b ≠ a ∧ gs[b]? = some k) := by
  rw [getElem?_set] at h
  split at h
  · rename_i hab
    split at h
    · exact .inl ⟨hab.symm, (Option.some.inj h).symm⟩
    · cases h
  · rename_i hab
    exact .inr ⟨Ne.symm hab, h⟩

/-- Whoever is unrivalled still finds its server where it would have found it before all others. -/
theorem Hall.Sound.placeIn_eq (hs : h.Sound tries horizon w) {a : ℕ} {g : Guest}
    (ha : h.guests[a]? = some g) (hnone : g.visit.place = none)
    (halone : Unrivalled horizon (h.guests.map Guest.client) a) :
    placeIn horizon g.client h.world.servers = placeIn horizon g.client w.servers := by
  refine placeIn_later hs.later fun i u hu => (hs.taken i u hu).imp_right ?_
  rintro ⟨k, hk, hplace⟩ htarget
  obtain ⟨z, hz⟩ := Visit.reached_of_place hplace
  obtain rfl := Option.some.inj (hu.symm.trans (hs.reached k hk i z hz).2)
  obtain ⟨b, hb⟩ := mem_iff_getElem?.mp hk
  have hown : targetOf horizon k.client = some (z.host, z.port) := (hs.faithful k hk).target hz
  have hsame : a = b :=
    halone b g.client k.client (z.host, z.port) (by simp [ha]) (by simp [hb]) htarget hown
  rw [← hsame, ha] at hb
  cases hb
  cases hnone.symm.trans hplace

section

variable {a b : ℕ} {g k : Guest} {i : ℕ} {u : Server} {v : Visit} {w' : World}
  {recorded : Option Exchange}

theorem Hall.Sound.connected (hs : h.Sound tries horizon w) (hk : k ∈ h.guests)
    (hki : k.visit.place = some i) (hu : h.world.servers[i]? = some u) : u.connected = true := by
  obtain ⟨z, hz⟩ := Visit.reached_of_place hki
  obtain rfl := Option.some.inj (hu.symm.trans (hs.reached k hk i z hz).2)
  rfl

theorem Hall.Sound.reached_kept (hs : h.Sound tries horizon w)
    (ht : g.visit.Turned h.world v w' recorded) (hk : k ∈ h.guests)
    (hi : k.visit.reached = some (i, u)) :
    w.servers[i]? = some u ∧ w'.servers[i]? = some { u with connected := true } := by
  obtain ⟨hbefore, hnow⟩ := hs.reached k hk i u hi
  exact ⟨hbefore, ht.kept i _ hnow rfl⟩

theorem Hall.Sound.reached_turn (hs : h.Sound tries horizon w)
    (ht : g.visit.Turned h.world v w' recorded) (hg : g ∈ h.guests)
    (hi : v.reached = some (i, u)) :
    w.servers[i]? = some u ∧ w'.servers[i]? = some { u with connected := true } := by
  rcases ht.reached i u hi with hold | ⟨hu, hfree, hnow⟩
  · exact hs.reached_kept ht hg hold
  · exact ⟨hs.later.getElem? hu hfree, hnow⟩

/-- Nobody else has the place of the one whose turn it was. -/
theorem Hall.Sound.apart_turn (hs : h.Sound tries horizon w)
    (ht : g.visit.Turned h.world v w' recorded) (ha : h.guests[a]? = some g)
    (hb : h.guests[b]? = some k) (hki : k.visit.place = some i) (hi : v.place = some i) :
    a = b := by
  obtain ⟨u, hu⟩ := Visit.reached_of_place hi
  rcases ht.reached i u hu with hold | ⟨hfound, hfree, -⟩
  · have hgi : g.visit.place = some i := by simp [Visit.place, hold]
    exact hs.apart a b g k i ha hb hgi hki
  · cases (hs.connected (mem_of_getElem? hb) hki hfound).symm.trans hfree

theorem Hall.Sound.taken_turn (hs : h.Sound tries horizon w)
    (ht : g.visit.Turned h.world v w' recorded) (hp : g.visit.Placed horizon g.client h.world v)
    (ha : h.guests[a]? = some g) (hu : w'.servers[i]? = some u) :
    w.servers[i]? = some u ∨
      ∃ k ∈ h.guests.set a { g with visit := v }, k.visit.place = some i := by
  have hnew : { g with visit := v } ∈ h.guests.set a { g with visit := v } :=
    mem_set (List.getElem?_eq_some_iff.mp ha).1 _
  rcases ht.taken i u hu with hold | hnow
  · refine (hs.taken i u hold).imp_right ?_
    rintro ⟨k, hk, hki⟩
    obtain ⟨b, hb⟩ := mem_iff_getElem?.mp hk
    by_cases hab : a = b
    · rw [← hab, ha] at hb
      cases hb
      -- whoever has a place was heard out, and keeps it
      cases hp with
      | same _ hsame => exact ⟨_, hnew, hsame.trans hki⟩
      | found hunheard => cases (Visit.place_of_not_heardOut hunheard).symm.trans hki
    · exact ⟨k, mem_of_getElem? ((getElem?_set_ne hab).trans hb), hki⟩
  · exact .inr ⟨_, hnew, hnow⟩

theorem Hall.Sound.sought_turn (hs : h.Sound tries horizon w)
    (hp : g.visit.Placed horizon g.client h.world v) (ha : h.guests[a]? = some g)
    (hheard : v.heardOut = true) (halone : Unrivalled horizon (h.guests.map Guest.client) a) :
    v.place = placeIn horizon g.client w.servers := by
  cases hp with
  | same heard place => exact place.trans (hs.sought a g ha (heard ▸ hheard) halone)
  | found unheard place =>
      exact place.trans (hs.placeIn_eq ha (Visit.place_of_not_heardOut unheard) halone)

end

/-- A turn of one connection leaves all others as they are. -/
theorem Hall.Sound.turn (hs : h.Sound tries horizon w) (a : ℕ) :
    (h.turn tries a).Sound tries horizon w := by
  unfold Hall.turn
  cases ha : h.guests[a]? with
  | none => exact hs
  | some g =>
      have hmem : g ∈ h.guests := mem_of_getElem? ha
      have hfaithful := (hs.faithful g hmem).turn h.world
      have hplaced := (hs.faithful g hmem).placed h.world
      have hturned := g.visit.turned tries g.stamp h.world
      simp only
      generalize g.visit.turn tries g.stamp h.world = t at hfaithful hplaced hturned ⊢
      obtain ⟨v, w', recorded⟩ := t
      have hclients : (h.guests.set a { g with visit := v }).map Guest.client =
          h.guests.map Guest.client := map_set_of_getElem? ha rfl
      refine ⟨hs.later.trans hturned.later, ?_, fun k hk => ?_, fun k hk => ?_, ?_,
        fun i u hu => hs.taken_turn hturned hplaced ha hu, fun b k hk hheard halone => ?_,
        fun b k hk => ?_, ?_⟩
      · rw [hturned.registry, map_append, foldl_append]
        cases recorded with
        | none => exact hs.registry
        | some e => exact registry_record hs.registry e
      · rcases mem_or_eq_of_mem_set hk with hold | rfl
        · exact hs.faithful k hold
        · exact hfaithful
      · rcases mem_or_eq_of_mem_set hk with hold | rfl
        · exact fun i u hi => hs.reached_kept hturned hold hi
        · exact fun i u hi => hs.reached_turn hturned hmem hi
      · intro b c k l i hk hl hki hli
        rcases getElem?_set_cases hk with ⟨rfl, rfl⟩ | ⟨-, hkold⟩
        · rcases getElem?_set_cases hl with ⟨rfl, -⟩ | ⟨-, hlold⟩
          · rfl
          · exact hs.apart_turn hturned ha hlold hli hki
        · rcases getElem?_set_cases hl with ⟨rfl, rfl⟩ | ⟨-, hlold⟩
          · exact (hs.apart_turn hturned ha hkold hki hli).symm
          · exact hs.apart b c k l i hkold hlold hki hli
      · simp only [hclients] at halone
        rcases getElem?_set_cases hk with ⟨rfl, rfl⟩ | ⟨-, hold⟩
        · have hsought := hs.sought_turn hplaced ha
          exact hsought hheard halone
        · exact hs.sought b k hold hheard halone
      · rw [Hall.recordedBy, filterMap_append]
        rcases getElem?_set_cases hk with ⟨rfl, rfl⟩ | ⟨hne, hold⟩
        · rw [hturned.record, ← hs.recorded b g ha]
          congr 1
          cases recorded <;> simp
        · rw [← hs.recorded b k hold, Hall.recordedBy]
          cases recorded <;> simp [hne.symm]
      · intro entry hentry
        rw [length_set]
        rcases mem_append.mp hentry with hold | hnew
        · exact hs.known entry hold
        · obtain ⟨e, -, rfl⟩ := mem_map.mp hnew
          exact (List.getElem?_eq_some_iff.mp ha).1

theorem Hall.Sound.run (hs : h.Sound tries horizon w) (events : List Hall.Event) :
    (h.run tries horizon events).Sound tries horizon w := by
  induction events generalizing h with
  | nil => exact hs
  | cons event events ih =>
      cases event with
      | accept attempt => exact ih (hs.accept attempt)
      | turn a => exact ih (hs.turn a)

end

/-! ## As if alone -/

/-- A connection has come to what it comes to alone among servers: the same is delivered to its
client and to the server that it finds, nothing to any other, and the same is appended to the
store. -/
structure Guest.AsAlone (horizon : ℕ) (w : World) (us : List Server) (g : Guest) : Prop where
  client : (serve g.stamp horizon true [.ok g.client] (w.among us)).1 = [g.visit.line.client]
  servers : (serve g.stamp horizon true [.ok g.client] (w.among us)).2.servers.map Server.peer =
    peersAfter us (placeIn horizon g.client us) (some g.visit.line.server)
  record : (serve g.stamp horizon true [.ok g.client] (w.among us)).2.registry =
    (g.visit.record.elim w w.record).registry

theorem Guest.asAlone {tries horizon : ℕ} {g : Guest} (w : World) {us : List Server}
    (h : g.visit.Faithful tries horizon g.client g.stamp) (hover : g.visit.Over)
    (hclient : (delivery g.client.script).bytes.length < tries)
    (hserver : ∀ u ∈ g.visit.own, (delivery u.peer.script).bytes.length < tries)
    (hfinds : Finds horizon g.client us g.visit.own) : g.AsAlone horizon w us := by
  obtain ⟨hleft, hservers, hregistry⟩ := alone_fate g.stamp w hfinds hclient hserver
  obtain ⟨stamp, client, v⟩ := g
  simp only at h hover hfinds hleft hservers hregistry
  cases hover with
  | waiting found line clock =>
      cases h with
      | exchanging finds play =>
          rw [Visit.own, Visit.reached, ← play] at hleft hservers hregistry
          exact ⟨hleft, hservers, hregistry⟩
  | left found record clock line =>
      cases h with
      | leaving finds play =>
          rw [Visit.own, Visit.reached, ← play] at hleft hservers hregistry
          refine ⟨hleft, hservers.trans ?_, hregistry⟩
          cases found with
          | some at' => rfl
          | none =>
              rw [placeIn_of_finds_none hfinds]
              rfl

/-! ## Every connection ends -/

/-- A connection comes to an end after some turns, whatever the world is at each of them. -/
inductive Visit.Ends (tries : ℕ) (stamp : Stamp) : Visit → Prop
  | over {v : Visit} (h : v.Over) : Ends tries stamp v
  | turn {v : Visit} (h : ∀ w, Ends tries stamp (v.turn tries stamp w).1) : Ends tries stamp v

section

variable {tries : ℕ} {stamp : Stamp}

theorem Visit.ends_leaving (found : Option (ℕ × Server)) (record : Option Exchange) (clock : Clock)
    (line : Line) (d : Dialogue Unit) : (leaving found record clock line d).Ends tries stamp := by
  induction d generalizing line with
  | done => exact .over (.left ..)
  | read side size clock next ih => exact .turn fun w => ih _ _ _
  | write side bytes next ih => exact .turn fun w => ih _ _
  | leave side next ih => exact .turn fun w => ih _

theorem Visit.ends_exchanging (found : Option (ℕ × Server)) (line : Line) (d : Dialogue Upshot) :
    (exchanging found line d).Ends tries stamp := by
  induction d generalizing line with
  | done upshot =>
      cases upshot with
      | waiting clock => exact .over (.waiting ..)
      | ended record clock => exact .turn fun w => ends_leaving ..
  | read side size clock next ih => exact .turn fun w => ih _ _ _
  | write side bytes next ih => exact .turn fun w => ih _ _
  | leave side next ih => exact .turn fun w => ih _

theorem Visit.ends (v : Visit) : v.Ends tries stamp := by
  cases v with
  | arriving line d =>
      induction d generalizing line with
      | done arrival =>
          cases arrival with
          | error clock => exact .turn fun w => ends_leaving ..
          | ok a => exact .turn fun w => ends_exchanging ..
      | read side size clock next ih => exact .turn fun w => ih _ _ _
      | write side bytes next ih => exact .turn fun w => ih _ _
      | leave side next ih => exact .turn fun w => ih _
  | exchanging found line d => exact ends_exchanging ..
  | leaving found record clock line d => exact ends_leaving ..

end

namespace Hall

variable {tries horizon : ℕ} {h : Hall} {a b : ℕ} {g : Guest}

theorem getElem?_turn (ha : h.guests[a]? = some g) :
    (h.turn tries a).guests[a]? =
      some { g with visit := (g.visit.turn tries g.stamp h.world).1 } := by
  obtain ⟨hlt, -⟩ := List.getElem?_eq_some_iff.mp ha
  simp only [Hall.turn, ha]
  exact getElem?_set_self hlt

theorem getElem?_turn_ne (hne : a ≠ b) : (h.turn tries a).guests[b]? = h.guests[b]? := by
  unfold Hall.turn
  split
  · rfl
  · exact getElem?_set_ne hne

/-- Turns of one connection bring it to its end. -/
theorem exists_over (horizon : ℕ) (ha : h.guests[a]? = some g) :
    ∃ n, (∀ k, (h.run tries horizon (replicate n (.turn a))).guests[a]? = some k → k.visit.Over) ∧
      ∀ b, a ≠ b → (h.run tries horizon (replicate n (.turn a))).guests[b]? = h.guests[b]? := by
  obtain ⟨stamp, client, v⟩ := g
  have hends : v.Ends tries stamp := v.ends
  induction hends generalizing h with
  | «over» hover =>
      refine ⟨0, fun k hk => ?_, fun b _ => rfl⟩
      obtain rfl := Option.some.inj (ha.symm.trans hk)
      exact hover
  | turn _ ih =>
      obtain ⟨n, hover, hothers⟩ := ih h.world (getElem?_turn ha)
      exact ⟨n + 1, hover, fun b hne => (hothers b hne).trans (getElem?_turn_ne hne)⟩

theorem run_append (h : Hall) (events more : List Event) :
    h.run tries horizon (events ++ more) = (h.run tries horizon events).run tries horizon more :=
  foldl_append

theorem length_turns (turns : List ℕ) :
    (h.run tries horizon (turns.map .turn)).guests.length = h.guests.length := by
  induction turns generalizing h with
  | nil => rfl
  | cons a turns ih =>
      refine ih.trans ?_
      simp only [happen, Hall.turn]
      split
      · rfl
      · exact length_set

/-- All connections can be brought to their end. -/
theorem exists_all_over (tries horizon : ℕ) (h : Hall) :
    ∃ turns : List ℕ, ∀ g ∈ (h.run tries horizon (turns.map .turn)).guests, g.visit.Over := by
  have hfirst (n : ℕ) : ∃ turns : List ℕ, ∀ (a : ℕ) (g : Guest), a < n →
      (h.run tries horizon (turns.map .turn)).guests[a]? = some g → g.visit.Over := by
    induction n with
    | zero => exact ⟨[], fun a g ha => absurd ha (Nat.not_lt_zero a)⟩
    | succ n ih =>
        obtain ⟨turns, hturns⟩ := ih
        cases hn : (h.run tries horizon (turns.map .turn)).guests[n]? with
        | none =>
            refine ⟨turns, fun a g ha hg => ?_⟩
            rcases Nat.lt_succ_iff_lt_or_eq.mp ha with hlt | rfl
            · exact hturns a g hlt hg
            · cases hn.symm.trans hg
        | some k =>
            obtain ⟨m, hover, hothers⟩ := exists_over horizon hn
            refine ⟨turns ++ replicate m n, fun a g ha hg => ?_⟩
            rw [map_append, run_append, map_replicate] at hg
            rcases Nat.lt_succ_iff_lt_or_eq.mp ha with hlt | rfl
            · rw [hothers a (Nat.ne_of_gt hlt)] at hg
              exact hturns a g hlt hg
            · exact hover g hg
  obtain ⟨turns, hturns⟩ := hfirst h.guests.length
  refine ⟨turns, fun g hg => ?_⟩
  obtain ⟨a, ha⟩ := mem_iff_getElem?.mp hg
  have hlt : a < h.guests.length := by
    rw [← length_turns turns]
    exact (List.getElem?_eq_some_iff.mp ha).1
  exact hturns a g hlt ha

/-! ## All of it -/

/-- The client that an event brings. -/
def Event.arrival? : Event → Option (Stamp × Peer)
  | .accept (.ok arrived) => some arrived
  | _ => none

/-- An attempt to accept a client that failed. -/
def Event.fails : Event → Bool
  | .accept (.error _) => true
  | _ => false

theorem guests_run (h : Hall) (events : List Event) :
    (h.run tries horizon events).guests.map (fun g => (g.stamp, g.client)) =
      h.guests.map (fun g => (g.stamp, g.client)) ++ events.filterMap Event.arrival? := by
  induction events generalizing h with
  | nil => simp [run]
  | cons event events ih =>
      refine (ih (h.happen tries horizon event)).trans ?_
      cases event with
      | accept attempt =>
          cases attempt with
          | error reason => rfl
          | ok arrived => simp [happen, Hall.accept, Event.arrival?]
      | turn a =>
          simp only [happen, Hall.turn, Event.arrival?, filterMap_cons]
          cases ha : h.guests[a]? with
          | none => rfl
          | some g =>
              exact congrArg (· ++ _) (map_set_of_getElem? ha rfl)

/-- Attempts that fail make no difference. -/
theorem run_filter (h : Hall) (events : List Event) :
    h.run tries horizon (events.filter fun event => !event.fails) = h.run tries horizon events := by
  induction events generalizing h with
  | nil => rfl
  | cons event events ih =>
      cases event with
      | accept attempt =>
          cases attempt with
          | error reason => exact ih h
          | ok arrived => exact ih _
      | turn a => exact ih _

/-- A turn records one exchange at most. -/
theorem length_log_run (h : Hall) (events : List Event) :
    (h.run tries horizon events).log.length ≤ h.log.length + events.length := by
  induction events generalizing h with
  | nil => exact Nat.le_refl _
  | cons event events ih =>
      have hfirst : (h.happen tries horizon event).log.length ≤ h.log.length + 1 := by
        cases event with
        | accept attempt => cases attempt <;> exact Nat.le_succ _
        | turn a =>
            simp only [happen, Hall.turn]
            split
            · exact Nat.le_succ _
            · simp only [length_append, length_map, Nat.add_le_add_iff_left]
              exact Option.length_toList_le
      have hrest : (h.run tries horizon (event :: events)).log.length ≤
          (h.happen tries horizon event).log.length + events.length := ih _
      rw [length_cons]
      omega

end Hall

/-- What connections side by side have come to behind a world. The clients are those that were
accepted. Each comes to what it comes to alone among any servers where it finds what it has found,
which nobody else has, and among all servers of the world if it has no rival. The current store has
numbered what they recorded, once each and in that order. -/
structure SideBySide (horizon : ℕ) (w : World) (ref : StoreRef) (capacity : ℕ)
    (past : List Store.Step) (events : List Hall.Event) (h : Hall) : Prop where
  guests : h.guests.map (fun g => (g.stamp, g.client)) = events.filterMap Hall.Event.arrival?
  alone : ∀ g ∈ h.guests, g.visit.Over → ∀ us, Finds horizon g.client us g.visit.own →
    g.AsAlone horizon w us
  unrivalled : ∀ (a : ℕ) (g : Guest), h.guests[a]? = some g → g.visit.Over →
    Unrivalled horizon (h.guests.map Guest.client) a → g.AsAlone horizon w w.servers
  finds : ∀ g ∈ h.guests, Finds horizon g.client g.visit.own.toList g.visit.own
  own : ∀ g ∈ h.guests, g.visit.own = g.visit.place.bind (w.servers[·]?)
  apart : ∀ (a b : ℕ) (g k : Guest) (i : ℕ), h.guests[a]? = some g → h.guests[b]? = some k →
    g.visit.place = some i → k.visit.place = some i → a = b
  recorded : ∀ (a : ℕ) (g : Guest), h.guests[a]? = some g → h.recordedBy a = g.visit.record.toList
  known : ∀ entry ∈ h.log, entry.1 < h.guests.length
  current : h.world.registry.current = some ref
  continued : (h.world.registry.store ref).Continued capacity past (h.log.map Prod.snd)

/-- However connections take their turns, and wherever attempts to accept one fail, each of them
comes to its end, and to what it comes to alone. -/
theorem connections_isolated {ref : StoreRef} {capacity : ℕ} {past : List Store.Step} {w : World}
    (hcurrent : w.registry.current = some ref) (hin : ref.index < w.registry.stores.size)
    (hstore : w.registry.store ref = ((Store.new capacity).run past).2) {tries : ℕ} (horizon : ℕ)
    (events : List Hall.Event)
    (hclients : ∀ arrived ∈ events.filterMap Hall.Event.arrival?,
      (delivery arrived.2.script).bytes.length < tries)
    (hservers : ∀ u ∈ w.servers, (delivery u.peer.script).bytes.length < tries)
    (hcount : (Store.appends past).length + events.length < UInt64.size) :
    let h := Hall.run tries horizon ⟨w, [], []⟩ events
    SideBySide horizon w ref capacity past events h ∧
      Hall.run tries horizon ⟨w, [], []⟩ (events.filter fun event => !event.fails) = h ∧
      ∃ turns : List ℕ, ∀ g ∈ (h.run tries horizon (turns.map .turn)).guests, g.visit.Over := by
  intro h
  have hsound : h.Sound tries horizon w := (Hall.sound_open tries horizon w).run events
  have hguests : h.guests.map (fun g => (g.stamp, g.client)) =
      events.filterMap Hall.Event.arrival? := Hall.guests_run ⟨w, [], []⟩ events
  have hlog : h.log.length ≤ events.length := by
    simpa using Hall.length_log_run ⟨w, [], []⟩ events
  have hrecorded := recorded_foldl (h.log.map Prod.snd) hcurrent hin
  have hown (g : Guest) (hg : g ∈ h.guests) :
      g.visit.own = g.visit.place.bind (w.servers[·]?) := by
    unfold Visit.own Visit.place
    cases hreached : g.visit.reached with
    | none => rfl
    | some found => exact (hsound.reached g hg found.1 found.2 hreached).1.symm
  have halone (g : Guest) (hg : g ∈ h.guests) (hover : g.visit.Over) (us : List Server)
      (hfinds : Finds horizon g.client us g.visit.own) : g.AsAlone horizon w us := by
    refine Guest.asAlone w (hsound.faithful g hg) hover ?_ (fun u hu => ?_) hfinds
    · have hmem : (g.stamp, g.client) ∈ events.filterMap Hall.Event.arrival? :=
        hguests ▸ mem_map_of_mem hg
      exact hclients _ hmem
    · rw [hown g hg] at hu
      obtain ⟨i, -, hi⟩ := Option.bind_eq_some_iff.mp hu
      exact hservers u (mem_of_getElem? hi)
  refine ⟨⟨hguests, halone, fun a g hg hover hrivals => ?_, fun g hg => (hsound.faithful g hg).finds,
    hown, hsound.apart, hsound.recorded, hsound.known, ?_, ?_⟩, Hall.run_filter _ _,
    Hall.exists_all_over tries horizon h⟩
  · have hmem := mem_of_getElem? hg
    refine halone g hmem hover w.servers ?_
    rw [Finds, ← hsound.sought a g hg hover.heardOut hrivals, hown g hmem]
  · rw [hsound.registry]
    exact hrecorded.current
  · rw [hsound.registry, hrecorded.store, hstore]
    refine Store.continued_run capacity past _ ?_
    rw [length_map]
    omega

/-! ## Two connections, side by side -/

def otherClient : Peer where
  script := [.arrival (Bytes.ofAscii "GET http://other/ HTTP/1.1\r\n\r\n")]

def otherServer : Server where
  host := "other"
  port := 80
  peer := { script := [.arrival (Bytes.ofAscii "HTTP/1.1 200 OK\r\n\r\nhi")] }

/-- A world with an empty store and two servers. -/
def twoServers : World := ⟨[wholeServer, otherServer], [], (Registry.new.init 5).2, 0⟩

/-- The second client comes after an attempt that failed, and overtakes the first one. -/
def crossing : List Hall.Event :=
  [.accept (.ok (⟨"0", 0⟩, wholeClient)), .turn 0, .accept (.error "too many open files"),
    .accept (.ok (⟨"1", 5⟩, otherClient))] ++ (replicate 22 [.turn 1, .turn 0]).flatten

theorem connections_isolated_crossing :
    let h := Hall.run 300 100 ⟨twoServers, [], []⟩ crossing
    h.log.map Prod.fst = [1, 0] ∧ SideBySide 100 twoServers ⟨0⟩ 5 [] crossing h ∧
      Hall.run 300 100 ⟨twoServers, [], []⟩ (crossing.filter fun event => !event.fails) = h := by
  have hstore : twoServers.registry.store ⟨0⟩ = ((Store.new 5).run []).2 := rfl
  have hclients : ∀ arrived ∈ crossing.filterMap Hall.Event.arrival?,
      (delivery arrived.2.script).bytes.length < 300 := by decide +kernel
  have hservers : ∀ u ∈ twoServers.servers, (delivery u.peer.script).bytes.length < 300 := by
    decide +kernel
  have hisolated :=
    connections_isolated rfl (by decide) hstore 100 crossing hclients hservers (by decide)
  exact ⟨by decide +kernel, hisolated.1, hisolated.2.1⟩

end TrafficCapture.Proxy
