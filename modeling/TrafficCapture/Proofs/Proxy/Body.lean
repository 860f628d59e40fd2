import TrafficCapture.Proofs.Proxy.Chunked

/-! # Bodies

Complete bodies of every framing. A delivery begins with at most one body of a framing, and that
body is moved, whole and alone. -/

namespace TrafficCapture.Proxy

open Net List

/-- A complete body. -/
inductive Body where
  | empty
  | fixed (data : Bytes)
  | chunked (chunks : ChunkedBody)
  /-- The end of the stream ends the body. -/
  | untilClose (data : Bytes)

namespace Body

def framing : Body → Framing
  | empty => .empty
  | fixed data => .fixed data.length
  | chunked _ => .chunked
  | untilClose _ => .untilClose

/-- The body as it is sent. -/
def wire : Body → Bytes
  | empty => []
  | fixed data => data
  | chunked chunks => chunks.wire
  | untilClose data => data

/-- The body without the marks of chunks. -/
def data : Body → Bytes
  | empty => []
  | fixed data => data
  | chunked chunks => chunks.data
  | untilClose data => data

/-- The lines that a body must be cut into to be understood. -/
def lines : Body → List Bytes
  | chunked chunks => chunks.lines
  | _ => []

/-- The limit is one for the data of chunks. -/
def Admitted (limit : Option ℕ) : Body → Prop
  | chunked chunks => Move.Admits limit chunks.data.length
  | _ => True

/-- A body that is moved wherever it is complete. -/
structure Movable (limit : Option ℕ) (b : Body) : Prop where
  short : ShortLines b.lines
  admitted : b.Admitted limit

/-- Whether a delivery begins with the body. -/
def Begins : Body → Delivery → Prop
  | empty, _ => True
  | fixed data, d => data <+: d.bytes
  | chunked chunks, d => chunks.wire <+: d.bytes
  | untilClose data, d => d = ⟨data, .ended⟩

theorem Begins.wire_prefix {b : Body} {d : Delivery} (h : b.Begins d) : b.wire <+: d.bytes := by
  cases b with
  | empty => exact nil_prefix
  | fixed data => exact h
  | chunked chunks => exact h
  | untilClose data =>
      obtain rfl : d = ⟨data, .ended⟩ := h
      exact prefix_rfl

end Body

/-- The data in what has come of a body. -/
def Framing.dataOf : Framing → Bytes → Bytes
  | .chunked, part => ChunkedBody.dataOf part
  | _, part => part

theorem Body.dataOf_wire (b : Body) : b.framing.dataOf b.wire = b.data := by
  cases b with
  | chunked chunks =>
      have hdata := chunks.dataOf_wire []
      rwa [append_nil] at hdata
  | _ => rfl

/-- The framing finds the body at the front of a delivery. -/
structure Framing.Finds (framing : Framing) (d : Delivery) (b : Body) : Prop where
  framing_eq : b.framing = framing
  begins : b.Begins d

/-- A framing finds at most one body. -/
theorem Framing.Finds.unique {framing : Framing} {d : Delivery} {b b' : Body}
    (h : framing.Finds d b) (h' : framing.Finds d b') : b = b' := by
  obtain ⟨rfl, hb⟩ := h
  obtain ⟨he, hb'⟩ := h'
  cases b with
  | empty =>
      cases b' <;> cases he
      rfl
  | fixed data =>
      cases b' with
      | fixed data' =>
          have hlen : data'.length = data.length := Framing.fixed.inj he
          rw [(prefix_of_prefix_length_le hb hb' hlen.ge).eq_of_length hlen.symm]
      | _ => cases he
  | chunked chunks =>
      cases b' with
      | chunked chunks' =>
          obtain ⟨rest, hrest⟩ := hb
          obtain ⟨rest', hrest'⟩ := hb'
          rw [chunks.unique chunks' (hrest.trans hrest'.symm)]
      | _ => cases he
  | untilClose data =>
      cases b' with
      | untilClose data' =>
          obtain rfl : d = ⟨data, .ended⟩ := hb
          have hsame : (⟨data, .ended⟩ : Delivery) = ⟨data', .ended⟩ := hb'
          exact congrArg Body.untilClose (congrArg Delivery.bytes hsame)
      | _ => cases he

/-! ## Moving bodies -/

/-- What is kept of some data, if there is any. -/
def Capture.kept? (data : Bytes) : Option Bytes :=
  if data.isEmpty then none else some (data.take captureLimit)

theorem Effect.body? {written data : Bytes} {t t' : Transfer} (h : Effect written data t t')
    (hc : t.captured = {}) : t'.captured.body? = Capture.kept? data := by
  have hb : t'.captured.bytes = data.take captureLimit := by
    simpa [hc, Capture.bytes] using h.captured
  unfold Capture.body? Capture.kept?
  rw [hb]
  cases data with
  | nil => rfl
  | cons b data => rfl

namespace Move

theorem upcoming_length_le (t : Transfer) : t.upcoming.bytes.length ≤ ahead t := by
  have := delivery_length_le t.source.script
  simp only [Transfer.upcoming, Delivery.behind_bytes, length_append, ahead]
  omega

theorem rest_spec (t : Transfer) :
    (passHeld t.held.length >>= untilEnd (arriving t.source.script + 1)).Ends t
      (fun n t' => n = t.upcoming.bytes.length ∧ t.upcoming.ending = .ended ∧
        Advance t.upcoming.bytes t.upcoming.bytes t.upcoming.bytes t t')
      (Lacks (AllKept t.upcoming.bytes.length) (fun w => t.upcoming = ⟨w, .ended⟩) t) := by
  have hheld : t.held.take t.held.length = t.held := take_length
  have hle : (t.held.take t.held.length).length ≤ t.upcoming.bytes.length := by
    simp [Transfer.upcoming]
  refine (passHeld_spec t.held.length t _ hle).bind (fun moved t₁ h₁ => ?_)
    fun s t₁ h₁ => h₁.of_front (fun _ _ h => h) fun w _ hw _ => ⟨w, [], by simp, by simp [hw]⟩
  rw [hheld, drop_length] at h₁
  obtain ⟨rfl, hempty, ha⟩ := h₁
  have hrest : t₁.upcoming.bytes = (delivery t.source.script).bytes :=
    (append_cancel_left ha.upcoming_bytes).symm
  have hreads : t₁.upcoming.bytes.length < arriving t.source.script + 1 := by
    rw [hrest]
    exact Nat.lt_succ_of_le (delivery_length_le _)
  refine (untilEnd_spec _ t.held.length t₁ hempty hreads).mono (fun n t₂ h₂ => ?_)
    fun s t₂ h₂ => .after ha h₂ (fun part kept hkept => ?_) fun w _ hw _ => ?_
  · obtain ⟨rfl, hend, ha₂⟩ := h₂
    rw [ha.upcoming_bytes]
    exact ⟨(length_append ..).symm, ha.ending_eq ▸ hend, ha.trans ha₂⟩
  · refine .append (hheld ▸ hle) ?_
    rwa [ha.upcoming_bytes, length_append, Nat.add_sub_cancel_left]
  · rw [ha.upcoming] at hw
    refine ⟨t₁.upcoming.bytes, (congrArg Delivery.bytes hw).symm, ?_⟩
    exact congrArg (Delivery.mk t₁.upcoming.bytes) (congrArg Delivery.ending hw)

/-- Exactly the body that the framing finds is moved. -/
theorem body_spec (limit : Option ℕ) (framing : Framing) (t : Transfer) :
    (body limit framing).Ends t
      (fun n t' => ∃ b : Body, framing.Finds t.upcoming b ∧ b.Admitted limit ∧
        n = b.data.length ∧ Advance b.wire b.wire b.data t t')
      (Lacks (fun part kept => kept = framing.dataOf part)
        (fun w => ∃ b : Body, framing.Finds t.upcoming b ∧ b.Movable limit ∧ w = b.wire) t) := by
  cases framing with
  | empty => exact .pure ⟨.empty, ⟨rfl, trivial⟩, trivial, rfl, .refl t⟩
  | fixed n =>
      refine (data_spec _ _ n t).bind (fun _ t₁ h₁ => ?_) fun s t₁ h₁ =>
        h₁.of_front (fun _ _ hkept => hkept.kept_eq) ?_
      · obtain ⟨moved, rfl, ha⟩ := h₁
        have hfound : moved <+: t.upcoming.bytes := ⟨_, ha.upcoming_bytes.symm⟩
        exact .pure ⟨.fixed moved, ⟨rfl, hfound⟩, trivial, rfl, ha⟩
      · rintro w rest ⟨b, hb, -, rfl⟩ -
        obtain ⟨he, -⟩ := hb
        cases b <;> cases he
        exact ⟨_, [], (append_nil _).symm, rfl⟩
  | chunked =>
      refine .get ((chunks_spec limit _ 0 t (Nat.lt_succ_of_le (upcoming_length_le t))).mono
        (fun n t₁ h₁ => ?_) fun s t₁ h₁ => h₁.of_front (fun _ _ hkept => hkept) ?_)
      · obtain ⟨chunks, rfl, hadmits, ha⟩ := h₁
        have hfound : chunks.wire <+: t.upcoming.bytes := ⟨_, ha.upcoming_bytes.symm⟩
        have hlimit : Admits limit (0 + chunks.data.length) := hadmits fun _ _ => Nat.zero_le _
        rw [Nat.zero_add] at hlimit ⊢
        exact ⟨.chunked chunks, ⟨rfl, hfound⟩, hlimit, rfl, ha⟩
      · rintro w rest ⟨b, hb, hm, rfl⟩ -
        obtain ⟨he, -⟩ := hb
        cases b <;> cases he
        refine ⟨_, [], (append_nil _).symm, _, ⟨hm.short, ?_⟩, rfl⟩
        rw [Nat.zero_add]
        exact hm.admitted
  | untilClose =>
      refine .get ((rest_spec t).mono (fun n t₁ h₁ => ?_) fun s t₁ h₁ =>
        h₁.of_front (fun _ _ hkept => hkept.kept_eq) ?_)
      · obtain ⟨rfl, hend, ha⟩ := h₁
        have hfound : t.upcoming = ⟨t.upcoming.bytes, .ended⟩ := by rw [← hend]
        exact ⟨.untilClose t.upcoming.bytes, ⟨rfl, hfound⟩, trivial, rfl, ha⟩
      · rintro w rest ⟨b, hb, -, rfl⟩ -
        obtain ⟨he, hbegins⟩ := hb
        cases b <;> cases he
        exact ⟨_, [], (append_nil _).symm, hbegins⟩

/-! ## A head before the body -/

/-- Sends a head, and a body behind it. -/
theorem send_spec (head : Bytes) (limit : Option ℕ) (framing : Framing) (t : Transfer) :
    (put head >>= fun _ => body limit framing).Ends t
      (fun n t' => ∃ b : Body, framing.Finds t.upcoming b ∧ b.Admitted limit ∧
        n = b.data.length ∧ Advance b.wire (head ++ b.wire) b.data t t')
      (fun s t' => Refused head t s t' ∨
        ∃ t₁, Advance [] head [] t t₁ ∧ Lacks (fun part kept => kept = framing.dataOf part)
          (fun w => ∃ b : Body, framing.Finds t.upcoming b ∧ b.Movable limit ∧ w = b.wire)
          t₁ s t') := by
  refine (put_spec head t).bind (fun _ t₁ h₁ => ?_) fun s t₁ h₁ => Or.inl h₁
  have hsame : t₁.upcoming = t.upcoming := by simpa using h₁.1.upcoming.symm
  refine (body_spec limit framing t₁).mono (fun n t₂ h₂ => ?_)
    fun s t₂ h₂ => Or.inr ⟨t₁, h₁.1, by simpa [hsame] using h₂⟩
  obtain ⟨b, hb, hlimit, rfl, ha⟩ := h₂
  exact ⟨b, hsame ▸ hb, hlimit, rfl, by simpa using h₁.1.trans ha⟩

/-- However a transfer ends, the peers are as an effect leaves them. -/
theorem send_effect (head : Bytes) (limit : Option ℕ) (framing : Framing) (t : Transfer) :
    (put head >>= fun _ => body limit framing).Ends t
      (fun _ t' => ∃ written data, Effect written data t t')
      (fun _ t' => ∃ written data, Effect written data t t') := by
  refine (send_spec head limit framing t).mono (fun n t' h => ?_) fun s t' h => ?_
  · obtain ⟨b, -, -, -, hadv⟩ := h
    exact ⟨_, _, hadv.toEffect⟩
  · rcases h with ⟨-, -, part, -, heffect⟩ | ⟨t₁, h₁, hlacks⟩
    · exact ⟨_, _, heffect⟩
    · obtain ⟨part, data, heffect, -⟩ := hlacks.halted.effect
      exact ⟨_, _, h₁.toEffect.trans heffect⟩

variable {head : Bytes} {limit : Option ℕ} {framing : Framing} {t : Transfer}

/-- What is there, can be moved and is taken by the sink is sent. -/
theorem send_eq_ok {b : Body} (hb : framing.Finds t.upcoming b) (hm : b.Movable limit)
    (hw : t.Watched) (ha : t.sink.Accepts (head.length + b.wire.length)) :
    ∃ t', (put head >>= fun _ => body limit framing) t = .ok b.data.length t' ∧
      Advance b.wire (head ++ b.wire) b.data t t' := by
  have hspec := send_spec head limit framing t
  cases hsend : (put head >>= fun _ => body limit framing) t with
  | ok n t' =>
      obtain ⟨b', hb', -, rfl, hadv⟩ := hspec.of_ok hsend
      obtain rfl := hb.unique hb'
      exact ⟨t', rfl, hadv⟩
  | error s t' =>
      rcases hspec.of_error hsend with hr | ⟨t₁, h₁, hl⟩
      · exact (hr.not_accepted (ha.mono (Nat.le_add_right _ _))).elim
      · obtain ⟨rest, hrest⟩ := hb.begins.wire_prefix
        have hsame : t₁.upcoming = t.upcoming := by simpa using h₁.upcoming.symm
        refine (hl.missing (h₁.watched hw) b.wire rest ⟨b, hb, hm, rfl⟩ ?_ (h₁.accepts ha)).elim
        rw [hsame, hrest]

/-- What was sent although the body was not: the head, and a front of what was upcoming. -/
theorem send_eq_error {s : Stop} {t' : Transfer}
    (ha : t.sink.Accepts (head.length + t.upcoming.bytes.length))
    (h : (put head >>= fun _ => body limit framing) t = .error s t') :
    ∃ part, part <+: t.upcoming.bytes ∧ Effect (head ++ part) (framing.dataOf part) t t' ∧
      (s = .waiting → t.Watched → t.upcoming.ending = .silent) := by
  rcases (send_spec head limit framing t).of_error h with hr | ⟨t₁, h₁, hl⟩
  · exact (hr.not_accepted (ha.mono (Nat.le_add_right _ _))).elim
  · obtain ⟨⟨part, kept, he, hp, hkept⟩, hsilent⟩ := hl.halted
    have hsame : t₁.upcoming = t.upcoming := by simpa using h₁.upcoming.symm
    rw [hsame] at hp hkept
    obtain rfl := hkept (h₁.accepts ha)
    refine ⟨part, hp, h₁.toEffect.trans he, fun hs hw => ?_⟩
    rw [← hsame]
    exact hsilent hs (h₁.watched hw)

end Move

end TrafficCapture.Proxy
