import TrafficCapture.Proofs.Bytes.FirstMark
import TrafficCapture.Proofs.Net.Delivery
import TrafficCapture.Proxy.Connection

/-! # Heads

A head is read in pieces, behind the last of which the beginning of a body may have arrived. What
was read as a head and what is left are the front and the back of one delivery. -/

namespace TrafficCapture.Proxy

open Net List

@[simp] theorem received_finish (client : Peer) : (finish client).received = client.received := rfl

theorem headEnd_ne_nil : Bytes.headEnd ≠ [] := by decide

/-- The head and what is behind it are the front of what was held back and delivered. -/
theorem readHeadWithin_spec (reads : ℕ) (held : Bytes) (peer : Peer) (clock : Clock) :
    peer.Heard (readHeadWithin reads held peer clock).2.1 clock
        (readHeadWithin reads held peer clock).2.2 ∧
      ∀ raw behind, (readHeadWithin reads held peer clock).1 = .ok (raw, behind) →
        Bytes.EndsAtFirst Bytes.headEnd raw ∧
          (delivery peer.script).behind held =
            (delivery (readHeadWithin reads held peer clock).2.1.script).behind
              (raw ++ behind) := by
  induction reads generalizing held peer clock with
  | zero => exact ⟨.refl _ _, fun _ _ h => by cases h⟩
  | succ reads ih =>
      have hsize : 0 < headRead := by decide
      have hheard := Peer.heard_read hsize peer clock
      rw [readHeadWithin]
      split
      · rename_i more peer₁ clock₁ hread
        have hd : delivery peer.script = (delivery peer₁.script).behind more :=
          (Peer.tells_read hsize hread).1.2.2
        rw [hread] at hheard
        split
        · rename_i cut hcut
          refine ⟨hheard, fun raw behind h => ?_⟩
          obtain rfl := Except.ok.inj h
          obtain ⟨hall, hraw⟩ := (Bytes.cutAfter?_eq_some_iff headEnd_ne_nil).mp hcut
          exact ⟨hraw, by rw [hd, Delivery.behind_behind, hall]⟩
        · split
          · exact ⟨hheard, fun _ _ h => by cases h⟩
          · obtain ⟨hheard₁, hhead⟩ := ih (held ++ more) peer₁ clock₁
            refine ⟨hheard.trans hheard₁, fun raw behind h => ?_⟩
            obtain ⟨hraw, hall⟩ := hhead raw behind h
            exact ⟨hraw, by rw [hd, Delivery.behind_behind, hall]⟩
      · rename_i peer₁ clock₁ hread
        exact ⟨by simpa [hread] using hheard, fun _ _ h => by cases h⟩
      · rename_i reason peer₁ clock₁ hread
        exact ⟨by simpa [hread] using hheard, fun _ _ h => by cases h⟩
      · rename_i peer₁ clock₁ hread
        exact ⟨by simpa [hread] using hheard, fun _ _ h => by cases h⟩

section

variable {peer peer' : Peer} {clock clock' : Clock} {raw behind : Bytes}

theorem heard_readHead (peer : Peer) (clock : Clock) :
    peer.Heard (readHead peer clock).2.1 clock (readHead peer clock).2.2 :=
  (readHeadWithin_spec _ [] peer clock).1

/-- A head that was read ends where the mark of its end first occurs in what is delivered. -/
theorem endsAtFirst_of_readHead (h : readHead peer clock = (.ok (raw, behind), peer', clock')) :
    Bytes.EndsAtFirst Bytes.headEnd raw := by
  have hspec := (readHeadWithin_spec (headLimit + 1) [] peer clock).2 raw behind
  exact (hspec (by rw [← readHead, h])).1

theorem delivery_of_readHead (h : readHead peer clock = (.ok (raw, behind), peer', clock')) :
    delivery peer.script = (delivery peer'.script).behind (raw ++ behind) := by
  have hspec := ((readHeadWithin_spec (headLimit + 1) [] peer clock).2 raw behind
    (by rw [← readHead, h])).2
  rw [← readHead, h] at hspec
  simpa using hspec

/-- No head was read: it is too long, or all that is delivered was searched in vain. -/
structure NoHead (fault : HeadFault) (d : Delivery) (watched : Prop) : Prop where
  tooLong : fault = .tooLong → ∀ raw rest, d.bytes = raw ++ rest →
    Bytes.EndsAtFirst Bytes.headEnd raw → headLimit < raw.length
  searched : fault ≠ .tooLong → watched →
    d.bytes.length ≤ headLimit ∧ Bytes.cutAfter? Bytes.headEnd d.bytes = none
  silent : fault = .waiting → watched → d.ending = .silent

/-- No head that is short enough is delivered. -/
theorem NoHead.long {fault : HeadFault} {d : Delivery} {watched : Prop}
    (h : NoHead fault d watched) (hw : watched) (rest : Bytes) (hd : d.bytes = raw ++ rest)
    (hraw : Bytes.EndsAtFirst Bytes.headEnd raw) : headLimit < raw.length := by
  by_cases hfault : fault = .tooLong
  · exact h.tooLong hfault raw rest hd hraw
  · have hnone := (h.searched hfault hw).2
    exact ((Bytes.cutAfter?_eq_none_iff headEnd_ne_nil).mp hnone raw rest hd hraw).elim

theorem readHeadWithin_stop (reads : ℕ) (held : Bytes) (p : Peer) (c : Clock)
    (hheld : held.length ≤ headLimit) (hreads : headLimit < reads + held.length)
    (hnone : Bytes.cutAfter? Bytes.headEnd held = none) (fault : HeadFault)
    (hfault : (readHeadWithin reads held p c).1 = .error fault) :
    NoHead fault ((delivery p.script).behind held) (Outlasts c p.script) := by
  -- each read that is not the last adds a byte to what is held, so that the reads do not run out
  induction reads generalizing held p c with
  | zero => omega
  | succ reads ih =>
      have hsize : 0 < headRead := by decide
      -- where nothing is left to read, all there is was searched already
      have hall (hnil : (delivery p.script).bytes = []) :
          ((delivery p.script).behind held).bytes.length ≤ headLimit ∧
            Bytes.cutAfter? Bytes.headEnd ((delivery p.script).behind held).bytes = none := by
        rw [Delivery.behind_bytes, hnil, append_nil]
        exact ⟨hheld, hnone⟩
      rcases hread : p.read headRead c with ⟨reading, p₁, c₁⟩
      obtain ⟨htells, htime⟩ := Peer.tells_read hsize hread
      simp only [readHeadWithin, hread] at hfault
      cases reading with
      | bytes more =>
          obtain ⟨hne, -, hd⟩ := htells
          have hpos := length_pos_iff.mpr hne
          rw [hd, Delivery.behind_behind]
          cases hcut : Bytes.cutAfter? Bytes.headEnd (held ++ more) with
          | some cut =>
              simp only [hcut] at hfault
              cases hfault
          | none =>
              simp only [hcut] at hfault
              split at hfault
              · rename_i hlong
                cases hfault
                refine ⟨fun _ raw rest hup hraw => ?_, fun h => (h rfl).elim, nofun⟩
                exact Nat.lt_trans hlong (hraw.length_lt headEnd_ne_nil hcut hup)
              · rename_i hshort
                have hno := ih (held ++ more) p₁ c₁ (Nat.le_of_not_lt hshort)
                  (by rw [length_append]; omega) hcut hfault
                exact ⟨hno.tooLong, fun hf hw => hno.searched hf (htime.outlasts hw),
                  fun hf hw => hno.silent hf (htime.outlasts hw)⟩
      | ended =>
          cases hfault
          exact ⟨nofun, fun _ _ => hall (by rw [htells.1]), nofun⟩
      | failed reason =>
          cases hfault
          have hd : delivery p.script = ⟨[], .failed reason⟩ := htells
          exact ⟨nofun, fun _ _ => hall (by rw [hd]), nofun⟩
      | never =>
          cases hfault
          refine ⟨nofun, fun _ hw => ?_, fun _ hw => ?_⟩
          · have hd : delivery p.script = ⟨[], .silent⟩ := htells hw
            exact hall (by rw [hd])
          · have hd : delivery p.script = ⟨[], .silent⟩ := htells hw
            rw [Delivery.behind_ending, hd]

theorem readHead_stop {fault : HeadFault}
    (h : readHead peer clock = (.error fault, peer', clock')) :
    NoHead fault (delivery peer.script) (Outlasts clock peer.script) := by
  have hfault : (readHeadWithin (headLimit + 1) [] peer clock).1 = .error fault := by
    rw [← readHead, h]
  simpa using readHeadWithin_stop (headLimit + 1) [] peer clock (by decide) (by decide) (by decide)
    fault hfault

/-- A head that comes first, and is not too long, is read. -/
theorem readHead_of_delivery {B : Delivery} (hd : delivery peer.script = B.behind raw)
    (hends : Bytes.EndsAtFirst Bytes.headEnd raw) (hshort : raw.length ≤ headLimit)
    (hw : Outlasts clock peer.script) : ∃ behind, (readHead peer clock).1 = .ok (raw, behind) := by
  have hbytes := congrArg Delivery.bytes hd
  rw [Delivery.behind_bytes] at hbytes
  rcases hread : readHead peer clock with ⟨fault | ⟨raw', behind⟩, left, later⟩
  · have hlong := (readHead_stop hread).long hw B.bytes hbytes hends
    omega
  · have hends' := endsAtFirst_of_readHead hread
    have hall := congrArg Delivery.bytes (delivery_of_readHead hread)
    rw [hbytes, Delivery.behind_bytes, append_assoc] at hall
    obtain ⟨rfl, -⟩ := hends.unique hends' headEnd_ne_nil hall
    exact ⟨behind, rfl⟩

end

/-! ## The head of a request -/

/-- What led to a request that is to be forwarded. -/
structure Accepted (client : Peer) (clock : Clock) (raw : Bytes) (request : Request) (held : Bytes)
    (left : Peer) (later : Clock) : Prop where
  ends : Bytes.EndsAtFirst Bytes.headEnd raw
  delivered : delivery client.script = (delivery left.script).behind (raw ++ held)
  heard : client.Heard left clock later
  read : ∃ head rest, Http.Head.request fieldLimit raw = .ok (head, rest) ∧
    Request.ofHead head = .ok request

theorem accepted_of_opening {client left : Peer} {clock later : Clock} {request : Request}
    {held : Bytes} (h : opening client clock = .wanted request held left later) :
    ∃ raw, Accepted client clock raw request held left later := by
  unfold opening at h
  split at h
  · cases h
  · cases h
  · rename_i raw behind peer woken hread
    split at h
    · cases h
    · rename_i head rest hhead
      split at h
      · cases h
      · rename_i accepted hof
        cases h
        have hheard := heard_readHead client (clock.limitedTo (clock.now + headPatience))
        rw [hread] at hheard
        refine ⟨raw, endsAtFirst_of_readHead hread, delivery_of_readHead hread, ⟨hheard.same, ?_⟩,
          head, rest, hhead, hof⟩
        exact ⟨rfl, hheard.time.waits, hheard.time.later⟩

end TrafficCapture.Proxy
