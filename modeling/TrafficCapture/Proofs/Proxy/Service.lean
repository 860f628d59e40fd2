import Mathlib.Data.List.Forall2
import TrafficCapture.Proofs.Proxy.Record
import TrafficCapture.Proofs.Store.History

/-! # Connections together

However connections take their turns, each of them seeks a server once if its request is accepted,
and the store grows by the exchanges that they record, each of them once. -/

namespace TrafficCapture.Proxy

open Net List

/-! ## Turns -/

/-- Turns by the time are taken once by everything that has a time. -/
theorem filterMap_inOrder {α β : Type} (clock : α → Option Clock) (f : α → Option β)
    (items : List α) (h : ∀ a b, f a = some b → (clock a).isSome) :
    (inOrder clock items).filterMap (fun i => items[i]?.bind f) ~ items.filterMap f := by
  let timed := items.zipIdx.filterMap fun p => (clock p.1).map (·, p.2)
  have hperm : inOrder clock items ~ timed.map (·.2) := (mergeSort_perm timed _).map _
  refine (hperm.filterMap _).trans (.of_eq ?_)
  have hturn : ∀ p ∈ items.zipIdx,
      (((clock p.1).map (·, p.2)).bind fun q => items[q.2]?.bind f) = f p.1 := by
    rintro ⟨a, i⟩ hp
    have hi : items[i]? = some a := mem_zipIdx_iff_getElem?.mp hp
    cases hf : f a with
    | none => cases hc : clock a <;> simp [hi, hf]
    | some b =>
        obtain ⟨c, hc⟩ := Option.isSome_iff_exists.mp (h a b hf)
        simp [hc, hi, hf]
  calc (timed.map (·.2)).filterMap (fun i => items[i]?.bind f)
      = items.zipIdx.filterMap fun p => ((clock p.1).map (·, p.2)).bind fun q =>
          items[q.2]?.bind f := by
        rw [filterMap_map, filterMap_filterMap]
        rfl
    _ = items.zipIdx.filterMap fun p => f p.1 := filterMap_congr hturn
    _ = (items.zipIdx.map Prod.fst).filterMap f := by
        rw [filterMap_map]
        rfl
    _ = items.filterMap f := by rw [zipIdx_map_fst]

/-- Whoever has a turn by the time has one turn, in whatever order. -/
structure Schedule.Fair (schedule : Schedule) : Prop where
  seeking : ∀ passages, schedule.seeking passages ~ Schedule.byTime.seeking passages
  recording : ∀ closings, schedule.recording closings ~ Schedule.byTime.recording closings

theorem Schedule.fair_byTime : Schedule.byTime.Fair :=
  ⟨fun _ => .refl _, fun _ => .refl _⟩

/-! ## Seeking servers -/

/-- A connection as it was before it sought a server. -/
def Passage.before : Passage → Passage
  | .over client clock => .over client clock
  | .under request held client clock _ => .under request held client clock none

/-- The server that a connection seeks. -/
def Passage.target? : Passage → Option (String × UInt16)
  | .over .. => none
  | .under request _ _ _ _ => some (request.destination.host, request.destination.port)

/-- What all items of a list have, they keep when one of them is replaced by one that has the
same. -/
theorem map_set_of_getElem? {α β : Type} {items : List α} {i : ℕ} {a a' : α}
    (h : items[i]? = some a) {f : α → β} (hf : f a' = f a) : (items.set i a').map f = items.map f := by
  obtain ⟨hlt, rfl⟩ := List.getElem?_eq_some_iff.mp h
  have hsame := @set_getElem_self _ (items.map f) i (by simpa using hlt)
  rw [map_set, hf]
  simpa using hsame

theorem before_seek (w : World) (p : Passage) : (p.seek w).1.before = p.before := by
  cases p <;> rfl

theorem target?_before (p : Passage) : p.before.target? = p.target? := by
  cases p <;> rfl

theorem sought_seek (w : World) (p : Passage) :
    (p.seek w).2.sought = w.sought ++ p.target?.toList := by
  cases p with
  | «over» => simp [Passage.seek, Passage.target?]
  | under => rfl

theorem registry_seek (w : World) (p : Passage) : (p.seek w).2.registry = w.registry := by
  cases p <;> rfl

theorem before_ofClient (horizon : ℕ) (client : Peer) :
    (Passage.ofClient horizon client).before = Passage.ofClient horizon client := by
  unfold Passage.ofClient
  split <;> rfl

/-- What connections have come to after some turns. -/
structure Sought (passages : List Passage) (w : World) (turns : List ℕ) (passages' : List Passage)
    (w' : World) : Prop where
  before : passages'.map Passage.before = passages.map Passage.before
  sought : w'.sought = w.sought ++ turns.filterMap fun i => passages[i]?.bind Passage.target?
  registry : w'.registry = w.registry

theorem sought_seekAt (passages : List Passage) (w : World) (i : ℕ) :
    Sought passages w [i] (seekAt passages w i).1 (seekAt passages w i).2 := by
  unfold seekAt
  cases hi : passages[i]? with
  | none => exact ⟨rfl, by simp [hi], rfl⟩
  | some p =>
      refine ⟨map_set_of_getElem? hi (before_seek w p), ?_, registry_seek w p⟩
      rw [sought_seek]
      cases ht : p.target? <;> simp [hi, ht]

theorem Sought.trans {p₁ p₂ p₃ : List Passage} {w₁ w₂ w₃ : World} {is js : List ℕ}
    (h : Sought p₁ w₁ is p₂ w₂) (h' : Sought p₂ w₂ js p₃ w₃) : Sought p₁ w₁ (is ++ js) p₃ w₃ := by
  have htarget (i : ℕ) : p₂[i]?.bind Passage.target? = p₁[i]?.bind Passage.target? := by
    have hbefore (o : Option Passage) :
        (o.map Passage.before).bind Passage.target? = o.bind Passage.target? := by
      cases o <;> simp [target?_before]
    have hi := congrArg (fun ps : List Passage => ps[i]?.bind Passage.target?) h.before
    simpa [hbefore] using hi
  refine ⟨h'.before.trans h.before, ?_, h'.registry.trans h.registry⟩
  simp [h'.sought, h.sought, htarget]

theorem sought_seekAll (schedule : Schedule) (passages : List Passage) (w : World) :
    Sought passages w (schedule.seeking passages) (seekAll schedule passages w).1
      (seekAll schedule passages w).2 := by
  unfold seekAll
  induction schedule.seeking passages generalizing passages w with
  | nil => exact ⟨rfl, by simp, rfl⟩
  | cons i turns ih => exact (sought_seekAt passages w i).trans (ih _ _)

/-- Every connection that has sought its server is that of its client. -/
theorem Sought.forall₂ {horizon : ℕ} {clients : List Peer} {w w' : World} {turns : List ℕ}
    {passages : List Passage}
    (h : Sought (clients.map (Passage.ofClient horizon)) w turns passages w') :
    Forall₂ (fun client p => Passage.ofClient horizon client = p.before) clients passages := by
  have hbefore : Forall₂ (· = ·) (clients.map (Passage.ofClient horizon))
      (passages.map Passage.before) := by
    rw [forall₂_eq_eq_eq, h.before]
    simp [Function.comp_def, before_ofClient]
  rwa [forall₂_map_left_iff, forall₂_map_right_iff] at hbefore

/-! ## Recording exchanges -/

theorem store_append {r : Registry} {ref : StoreRef} (e : Exchange)
    (hin : ref.index < r.stores.size) :
    (r.append ref e).2.store ref = ((r.store ref).run [.append e]).2 := by
  simp [Registry.append, Registry.update, Registry.store, Store.run, Store.perform, hin]

theorem record_frame (w : World) (e : Exchange) :
    (w.record e).servers = w.servers ∧ (w.record e).sought = w.sought := by
  unfold World.record
  split <;> exact ⟨rfl, rfl⟩

theorem registry_record {w v : World} (h : v.registry = w.registry) (e : Exchange) :
    (v.record e).registry = (w.record e).registry := by
  unfold World.record
  rw [h]
  cases w.registry.current with
  | none => exact h
  | some ref => rfl

theorem registry_foldl_record (entries : List Exchange) {w v : World}
    (h : v.registry = w.registry) :
    (entries.foldl World.record v).registry = (entries.foldl World.record w).registry := by
  induction entries generalizing w v with
  | nil => exact h
  | cons e entries ih => exact ih (registry_record h e)

/-- The exchanges that connections record, in the order of their turns. -/
def recordsInTurn (schedule : Schedule) (closings : List Closing) : List Exchange :=
  (schedule.recording closings).filterMap fun i => closings[i]?.bind Closing.record

theorem recordAll_eq (schedule : Schedule) (closings : List Closing) (w : World) :
    recordAll schedule closings w =
      (recordsInTurn schedule closings).foldl World.record w := by
  unfold recordAll recordsInTurn
  induction schedule.recording closings generalizing w with
  | nil => rfl
  | cons i turns ih =>
      rw [foldl_cons, ih, filterMap_cons, recordAt]
      cases closings[i]?.bind Closing.record <;> rfl

/-- Whatever the turns are, every record is made once. -/
theorem recordsInTurn_perm {schedule : Schedule} (hfair : schedule.Fair)
    (closings : List Closing) :
    recordsInTurn schedule closings ~ closings.filterMap Closing.record := by
  refine ((hfair.recording closings).filterMap _).trans ?_
  refine filterMap_inOrder (fun c : Closing => c.record.map fun _ => c.clock) _ _ fun c e hc => ?_
  rw [hc]
  rfl

/-- A world after some exchanges were recorded in the current store. -/
structure Recorded (ref : StoreRef) (w : World) (entries : List Exchange) (w' : World) : Prop where
  current : w'.registry.current = some ref
  present : ref.index < w'.registry.stores.size
  store : w'.registry.store ref = ((w.registry.store ref).run (entries.map .append)).2
  sought : w'.sought = w.sought

theorem Recorded.trans {ref : StoreRef} {w₁ w₂ w₃ : World} {es fs : List Exchange}
    (h : Recorded ref w₁ es w₂) (h' : Recorded ref w₂ fs w₃) : Recorded ref w₁ (es ++ fs) w₃ where
  current := h'.current
  present := h'.present
  store := by rw [h'.store, h.store, map_append, Store.run_append]
  sought := h'.sought.trans h.sought

section

variable {ref : StoreRef} {w : World}

theorem recorded_record (e : Exchange) (hcurrent : w.registry.current = some ref)
    (hin : ref.index < w.registry.stores.size) : Recorded ref w [e] (w.record e) := by
  simp only [World.record, hcurrent]
  refine ⟨hcurrent, ?_, store_append e hin, rfl⟩
  simpa [Registry.append, Registry.update] using hin

theorem recorded_foldl (entries : List Exchange) (hcurrent : w.registry.current = some ref)
    (hin : ref.index < w.registry.stores.size) :
    Recorded ref w entries (entries.foldl World.record w) := by
  induction entries generalizing w with
  | nil => exact ⟨hcurrent, hin, rfl, rfl⟩
  | cons e entries ih =>
      have hfirst := recorded_record e hcurrent hin
      exact hfirst.trans (ih hfirst.current hfirst.present)

theorem recorded_recordAll (schedule : Schedule) (closings : List Closing)
    (hcurrent : w.registry.current = some ref) (hin : ref.index < w.registry.stores.size) :
    Recorded ref w (recordsInTurn schedule closings) (recordAll schedule closings w) := by
  rw [recordAll_eq]
  exact recorded_foldl _ hcurrent hin

end

/-! ## All of it -/

/-- What is recorded of one connection. -/
structure Captured (stamp : Stamp) (servers : List Server) (horizon : ℕ) (client : Peer)
    (c : Closing) : Prop where
  rejected : ∀ left clock, opening client ⟨horizon, []⟩ = .over left clock → c.record = none
  accepted : ∀ request held left clock,
    opening client ⟨horizon, []⟩ = .wanted request held left clock →
      ∃ found, c = Passage.conclude stamp servers (.under request held left clock found) ∧
        (c.client.closed = true → (c.record = none ↔
          ∃ b, (Passage.under request held left clock found).GivesUp servers b ∧
            ¬ client.Accepts b.reply.bytes.length))

theorem captured_conclude (stamp : Stamp) (servers : List Server) {horizon : ℕ} {client : Peer}
    {p : Passage} (hp : Passage.ofClient horizon client = p.before)
    (hfresh : client.closed = false) :
    Captured stamp servers horizon client (Passage.conclude stamp servers p) where
  rejected := by
    intro left clock h
    simp only [Passage.ofClient, h] at hp
    cases p with
    | «over» => rfl
    | under => cases hp
  accepted := by
    intro request held left clock h
    simp only [Passage.ofClient, h] at hp
    cases p with
    | «over» => cases hp
    | under request' held' left' clock' found =>
        cases hp
        refine ⟨found, rfl, fun hended => ?_⟩
        obtain ⟨raw, haccepted⟩ := accepted_of_opening h
        have hroom : left.room = client.room := by rw [haccepted.heard.same]
        have hclosed : left.closed = false := by rw [haccepted.heard.same]; exact hfresh
        have houtcome := outcome_conclude stamp servers request held left clock found
        rw [houtcome.record_eq_none_iff (fun _ _ => Passage.GivesUp.unique) hclosed hended]
        simp only [Peer.Accepts, hroom]

/-- To put a server back changes nothing but the servers. -/
theorem settleOne_frame (w : World) (p : Passage) (c : Closing) :
    (settleOne w p c).registry = w.registry ∧ (settleOne w p c).sought = w.sought := by
  unfold settleOne
  split <;> exact ⟨rfl, rfl⟩

theorem settled_all (ends : List (Passage × Closing)) (w : World) :
    (ends.foldl (fun w (p, c) => settleOne w p c) w).registry = w.registry ∧
      (ends.foldl (fun w (p, c) => settleOne w p c) w).sought = w.sought := by
  induction ends generalizing w with
  | nil => exact ⟨rfl, rfl⟩
  | cons first ends ih =>
      have hfirst := settleOne_frame w first.1 first.2
      obtain ⟨hregistry, hsought⟩ := ih (settleOne w first.1 first.2)
      exact ⟨hregistry.trans hfirst.1, hsought.trans hfirst.2⟩

/-- Connections that are carried seek their servers and leave the stores alone. -/
theorem carry_spec (schedule : Schedule) (stamp : Stamp) (horizon : ℕ) (clients : List Peer)
    (w : World) : ∃ stamp' servers passages,
      (carry schedule stamp horizon clients w).1 =
        passages.map (Passage.conclude stamp' servers) ∧
      Sought (clients.map (Passage.ofClient horizon)) w
        (schedule.seeking (clients.map (Passage.ofClient horizon))) passages
        (carry schedule stamp horizon clients w).2 := by
  let passages := clients.map (Passage.ofClient horizon)
  let stamp' : Stamp := { stamp with acceptedAt := stamp.acceptedAt + Int64.ofNat w.elapsed }
  have hsought := sought_seekAll schedule passages w
  obtain ⟨hregistry, hrest⟩ := settled_all
    ((seekAll schedule passages w).1.zip ((seekAll schedule passages w).1.map
      (Passage.conclude stamp' (seekAll schedule passages w).2.servers)))
    (seekAll schedule passages w).2
  exact ⟨stamp', (seekAll schedule passages w).2.servers, (seekAll schedule passages w).1, rfl,
    hsought.before, hrest.trans hsought.sought, hregistry.trans hsought.registry⟩

/-- Every client that is turned away leaves no trace. Every other one seeks its server once, and
once its connection has ended its exchange is recorded once, unless the exchange was given up and
the client did not take the answer. Nothing else is appended to the store. -/
theorem exchanges_captured {schedule : Schedule} (hfair : schedule.Fair) (stamp : Stamp)
    (horizon : ℕ) {clients : List Peer} {w : World} {ref : StoreRef}
    (hcurrent : w.registry.current = some ref)
    (hin : ref.index < w.registry.stores.size)
    (hfresh : ∀ client ∈ clients, client.closed = false) :
    let served := serveTogether schedule stamp horizon clients w
    ∃ stamp' servers closings,
      served.1 = closings.map Closing.client ∧
      Forall₂ (Captured stamp' servers horizon) clients closings ∧
      (∃ targets, targets ~ clients.filterMap (fun client =>
          (Passage.ofClient horizon client).target?) ∧
        served.2.sought = w.sought ++ targets) ∧
      ∃ entries, entries ~ closings.filterMap Closing.record ∧
        served.2.registry.store ref = ((w.registry.store ref).run (entries.map .append)).2 := by
  intro served
  let passages := clients.map (Passage.ofClient horizon)
  let closings := (carry schedule stamp horizon clients w).1
  obtain ⟨stamp', servers, passages', hclosings, hsought⟩ :=
    carry_spec schedule stamp horizon clients w
  have hrecorded : Recorded ref (carry schedule stamp horizon clients w).2 _ _ :=
    recorded_recordAll schedule closings (by rw [hsought.registry, hcurrent])
      (by rw [hsought.registry]; exact hin)
  have htargets : (schedule.seeking passages).filterMap
      (fun i => passages[i]?.bind Passage.target?) ~ passages.filterMap Passage.target? := by
    refine ((hfair.seeking passages).filterMap _).trans ?_
    refine filterMap_inOrder _ _ _ fun p target hp => ?_
    cases p with
    | «over» => cases hp
    | under => rfl
  refine ⟨stamp', servers, closings, rfl, ?_, ⟨_, ?_, hrecorded.sought.trans hsought.sought⟩,
    ⟨_, recordsInTurn_perm hfair closings, ?_⟩⟩
  · have hcaptured := ((forall₂_and_left _ _).mpr ⟨hfresh, hsought.forall₂⟩).imp fun _ _ h =>
      captured_conclude stamp' servers h.2 h.1
    rwa [← forall₂_map_right_iff, ← hclosings] at hcaptured
  · rwa [filterMap_map] at htargets
  · rw [← hsought.registry]
    exact hrecorded.store

/-! ## Runs -/

/-- The connection of a client is left as its passage ends, which began with what the client
sent. -/
def Concludes (horizon : ℕ) (client : Peer) (c : Closing) : Prop :=
  ∃ p stamp servers, Passage.ofClient horizon client = p.before ∧
    c = Passage.conclude stamp servers p

/-- How the connections of clients are left that were served, and what is recorded of them. -/
structure Carrying (horizon : ℕ) (clients : List Peer) (w : World) (served : List Peer × World)
    (closings : List Closing) (entries : List Exchange) : Prop where
  concluded : Forall₂ (Concludes horizon) clients closings
  left : served.1 = closings.map Closing.client
  recorded : entries ~ closings.filterMap Closing.record
  registry : served.2.registry = (entries.foldl World.record w).registry

theorem exists_of_forall₂ {α β : Type} {R : α → β → Prop} {as : List α} {bs : List β}
    (h : Forall₂ R as bs) {b : β} (hb : b ∈ bs) : ∃ a ∈ as, R a b := by
  induction h with
  | nil => cases hb
  | cons hr _ ih =>
      rcases mem_cons.mp hb with rfl | hb
      · exact ⟨_, mem_cons_self .., hr⟩
      · obtain ⟨a, ha, hr⟩ := ih hb
        exact ⟨a, mem_cons_of_mem _ ha, hr⟩

section

variable {horizon : ℕ} {clients more : List Peer} {w : World} {served later : List Peer × World}
  {closings others : List Closing} {entries records : List Exchange}

theorem Carrying.nil (horizon : ℕ) (w : World) : Carrying horizon [] w ([], w) [] [] :=
  ⟨.nil, rfl, .nil, rfl⟩

theorem Carrying.append (h : Carrying horizon clients w served closings entries)
    (h' : Carrying horizon more served.2 later others records) :
    Carrying horizon (clients ++ more) w (served.1 ++ later.1, later.2) (closings ++ others)
      (entries ++ records) where
  concluded := rel_append h.concluded h'.concluded
  left := by
    rw [map_append, ← h.left, ← h'.left]
  recorded := by
    rw [filterMap_append]
    exact h.recorded.append h'.recorded
  registry := by
    rw [foldl_append, h'.registry]
    exact registry_foldl_record records h.registry

/-- Whatever is recorded is the record of a passage. -/
theorem Carrying.exists_passage (h : Carrying horizon clients w served closings entries)
    {r : Exchange} (hr : r ∈ entries) :
    ∃ (p : Passage) (stamp : Stamp) (servers : List Server),
      (p.conclude stamp servers).record = some r := by
  obtain ⟨c, hc, hrecord⟩ := mem_filterMap.mp (h.recorded.mem_iff.mp hr)
  obtain ⟨client, -, p, stamp, servers, -, rfl⟩ := exists_of_forall₂ h.concluded hc
  exact ⟨p, stamp, servers, hrecord⟩

end

theorem carrying_serveTogether {schedule : Schedule} (hfair : schedule.Fair) (stamp : Stamp)
    (horizon : ℕ) (clients : List Peer) (w : World) :
    Carrying horizon clients w (serveTogether schedule stamp horizon clients w)
      (carry schedule stamp horizon clients w).1
      (recordsInTurn schedule (carry schedule stamp horizon clients w).1) where
  concluded := by
    obtain ⟨stamp', servers, passages, hclosings, hsought⟩ :=
      carry_spec schedule stamp horizon clients w
    rw [hclosings, forall₂_map_right_iff]
    exact hsought.forall₂.imp fun _ p h => ⟨p, stamp', servers, h, rfl⟩
  left := rfl
  recorded := recordsInTurn_perm hfair _
  registry := by
    obtain ⟨_, _, _, -, hsought⟩ := carry_spec schedule stamp horizon clients w
    have hserved : (serveTogether schedule stamp horizon clients w).2.registry =
        (recordAll schedule (carry schedule stamp horizon clients w).1
          (carry schedule stamp horizon clients w).2).registry := rfl
    rw [hserved, recordAll_eq]
    exact registry_foldl_record _ hsought.registry

/-- How the connections of clients are left that come one after another. -/
def carryEach (stamp : Stamp) (horizon : ℕ) : List Peer → World → List Closing
  | [], _ => []
  | client :: clients, w =>
    (carry .byTime stamp horizon [client] w).1 ++
      carryEach stamp horizon clients (serveTogether .byTime stamp horizon [client] w).2

/-- How the connections of a run are left, in the order of the clients. -/
def carryAll (stamp : Stamp) (horizon : ℕ) (concurrent : Bool)
    (accepted : List (Except String Peer)) (w : World) : List Closing :=
  let clients := accepted.filterMap Except.toOption
  if concurrent then (carry .byTime stamp horizon clients w).1
  else carryEach stamp horizon clients w

/-- What holds of clients that come at once, and of all clients if it does of those before and of
those behind a point, holds of a run. It may speak of how the connections are left and of what is
recorded. -/
theorem serve_rounds
    {R : List Peer → World → List Peer × World → List Closing → List Exchange → Prop}
    (stamp : Stamp) (horizon : ℕ) (hnil : ∀ w, R [] w ([], w) [] [])
    (hround : ∀ clients w, R clients w (serveTogether .byTime stamp horizon clients w)
      (carry .byTime stamp horizon clients w).1
      (recordsInTurn .byTime (carry .byTime stamp horizon clients w).1))
    (happend : ∀ clients w served closings entries more later others records,
      R clients w served closings entries → R more served.2 later others records →
        R (clients ++ more) w (served.1 ++ later.1, later.2) (closings ++ others)
          (entries ++ records))
    (concurrent : Bool) (accepted : List (Except String Peer)) (w : World) :
    ∃ entries, R (accepted.filterMap Except.toOption) w (serve stamp horizon concurrent accepted w)
      (carryAll stamp horizon concurrent accepted w) entries := by
  unfold serve carryAll
  simp only
  split
  · exact ⟨_, hround _ w⟩
  · suffices hall : ∀ clients earlier (served : List Peer × World) closings entries,
        R earlier w served closings entries →
          ∃ entries, R (earlier ++ clients) w (clients.foldl
            (fun (run : List Peer × World) client =>
              (run.1 ++ (serveTogether .byTime stamp horizon [client] run.2).1,
                (serveTogether .byTime stamp horizon [client] run.2).2)) served)
            (closings ++ carryEach stamp horizon clients served.2) entries from
      hall _ [] ([], w) [] [] (hnil w)
    intro clients
    induction clients with
    | nil =>
        intro earlier served closings entries h
        rw [append_nil, carryEach, append_nil]
        exact ⟨entries, h⟩
    | cons client clients ih =>
        intro earlier served closings entries h
        have hnext := ih _ _ _ _ (happend _ _ _ _ _ _ _ _ _ h (hround [client] served.2))
        rwa [append_assoc, singleton_append, append_assoc] at hnext

theorem carrying_serve (stamp : Stamp) (horizon : ℕ) (concurrent : Bool)
    (accepted : List (Except String Peer)) (w : World) :
    ∃ entries, Carrying horizon (accepted.filterMap Except.toOption) w
      (serve stamp horizon concurrent accepted w)
      (carryAll stamp horizon concurrent accepted w) entries :=
  serve_rounds stamp horizon (.nil horizon)
    (carrying_serveTogether Schedule.fair_byTime stamp horizon)
    (fun _ _ _ _ _ _ _ _ _ h h' => h.append h') concurrent accepted w

/-! ## One lost exchange -/

/-- A client that takes no answer. -/
def deafClient : Peer where
  script := [.arrival (Bytes.ofAscii "GET http://page/ HTTP/1.1\r\n\r\n")]
  room := some 0

/-- An empty store, and a server that ends its stream at once. -/
def emptyWorld : World where
  servers := [{ host := "page", port := 80, peer := {} }]
  sought := []
  registry := (Registry.new.init 5).2

/-- The request is sent on and the connection ends, but nothing is recorded. -/
theorem exchanges_captured_deaf :
    let served := serveTogether .byTime ⟨"0", 0⟩ 100 [deafClient] emptyWorld
    served.2.sought = [("page", 80)] ∧ served.1.map Peer.closed = [true] ∧
      (served.2.registry.store ⟨0⟩).snapshot = [] := by
  intro served
  have hcurrent : emptyWorld.registry.current = some ⟨0⟩ := rfl
  have hfresh : ∀ client ∈ [deafClient], client.closed = false := by decide
  obtain ⟨-, -, -, -, -, ⟨targets, ht, hsought⟩, -⟩ :=
    exchanges_captured Schedule.fair_byTime ⟨"0", 0⟩ 100 hcurrent (by decide) hfresh
  have htarget : [deafClient].filterMap (fun client =>
      (Passage.ofClient 100 client).target?) = [("page", 80)] := by decide +kernel
  rw [htarget, perm_singleton] at ht
  rw [ht] at hsought
  exact ⟨hsought, by decide +kernel, by decide +kernel⟩

end TrafficCapture.Proxy
