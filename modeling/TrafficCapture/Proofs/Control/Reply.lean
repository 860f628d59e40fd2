import TrafficCapture.Assertion.Result
import TrafficCapture.Control.Failure
import TrafficCapture.Har.Json
import TrafficCapture.Proofs.Json.Value

/-! # Replies read back

What replies carry lies a few levels deep, has numbers of at most 64 bits, and never gives a name to
two members. Whoever reads the body of a reply as JSON, of whatever type, therefore gets just what
was put into it. -/

namespace TrafficCapture

open List Json

/-! ## Readable values -/

namespace Json

variable {levels : ℕ}

attribute [simp] Readable.null Readable.bool Readable.text

@[simp] theorem readable_noItems : Readable (levels + 1) (.list []) :=
  .list fun _ => not_mem_nil.elim

@[simp] theorem readable_noMembers : Readable (levels + 1) (.object []) :=
  .object nodup_nil fun _ => not_mem_nil.elim

@[simp] theorem readable_int64 (n : Int64) : Readable levels (.int n.toInt) :=
  .int (Int64.le_toInt n) (Int.lt_trans (Int64.toInt_lt n) (by decide))

theorem readable_nat {n : ℕ} (h : n < UInt64.size) : Readable levels (nat n) :=
  .int (by omega) (Int.ofNat_lt.mpr h)

@[simp] theorem readable_word16 (n : UInt16) : Readable levels (nat n.toNat) :=
  readable_nat (Nat.lt_trans n.toNat_lt (by decide))

@[simp] theorem readable_word64 (n : UInt64) : Readable levels (nat n.toNat) :=
  readable_nat n.toNat_lt

@[simp] theorem readable_map {α : Type} {f : α → Json} (h : ∀ a, Readable levels (f a))
    (as : List α) : Readable (levels + 1) (.list (as.map f)) :=
  .list (forall_mem_map.mpr fun a _ => h a)

end Json

variable {levels : ℕ}

namespace Har

@[simp] theorem NameValue.readable (p : NameValue) : Readable (levels + 1) p.toJson :=
  .object (by simp) (by simp)

@[simp] theorem PostData.readable (p : PostData) : Readable (levels + 1) p.toJson := by
  rcases p with ⟨mimeType, text, _ | encoding⟩ <;>
    exact .object (by simp [optionalMember]) (by simp [optionalMember])

@[simp] theorem Content.readable (c : Content) : Readable (levels + 1) c.toJson := by
  rcases c with ⟨size, mimeType, _ | text, _ | encoding⟩ <;>
    exact .object (by simp [optionalMember]) (by simp [optionalMember])

@[simp] theorem Timings.readable (t : Timings) : Readable (levels + 1) t.toJson :=
  .object (by simp) (by simp)

@[simp] theorem Request.readable (e : Exchange) :
    Readable (levels + 3) (Request.ofExchange e).toJson := by
  have hcookies : (Request.ofExchange e).cookies = [] := rfl
  rcases h : (Request.ofExchange e).postData with _ | data <;>
    exact .object (by simp [h, optionalMember]) (by simp [h, hcookies, optionalMember])

@[simp] theorem Response.readable (e : Exchange) :
    Readable (levels + 3) (Response.ofExchange e).toJson := by
  have hcookies : (Response.ofExchange e).cookies = [] := rfl
  exact .object (by simp) (by simp [hcookies])

@[simp] theorem Entry.readable (e : Exchange) :
    Readable (levels + 4) (Entry.ofExchange e).toJson :=
  .object (by simp) (by simp [Entry.ofExchange])

theorem readable_logToJson (entries : List Exchange) :
    Readable 7 (logToJson (entries.map Entry.ofExchange)) := by
  have hcreator : Readable (5)
      (.object [("name", .text "harcap"), ("version", .text creatorVersion)]) :=
    .object (by simp) (by simp)
  have hlog : Readable (6) (.object [("version", .text "1.2"),
      ("creator", .object [("name", .text "harcap"), ("version", .text creatorVersion)]),
      ("entries", .list ((entries.map Entry.ofExchange).map Entry.toJson))]) :=
    .object (by simp) (by simp [hcreator])
  exact .object (by simp) (forall_mem_singleton.mpr hlog)

end Har

namespace Assertion

@[simp] theorem Scope.readable (s : Scope) : Readable (levels + 1) s.toJson := by
  rcases s with ⟨_ | source, _ | port⟩ <;>
    exact .object (by simp [optionalMember]) (by simp [optionalMember])

@[simp] theorem Verdict.readable (v : Verdict) : Readable (levels + 1) v.toJson := by
  rcases v with ⟨url, failed, _ | message⟩ <;>
    exact .object (by simp [optionalMember]) (by simp [optionalMember])

theorem Result.readable (r : Result) : Readable 3 r.toJson :=
  .object (by simp) (by simp)

end Assertion

namespace Control

/-! ## Replies -/

/-- A reply tells a value: it says so, and its body is read back as the value. -/
structure Reply.Tells (r : Reply) (value : Json) : Prop where
  status : r.status = 200
  headers : r.headers = [("content-type", "application/json")]
  body : r.body = value.render
  read : Json.readAny.run r.body = .ok value

/-- A reply tells a failure: it says so, and its body is read back as kind and message. -/
structure Reply.Refuses (r : Reply) (f : Failure) : Prop where
  status : r.status = f.status ∧ r.status ≠ 200
  headers : r.headers.head? = some ("content-type", "application/json")
  read : Json.readAny.run r.body =
    .ok (.object [("error", .object [("kind", .text f.kind), ("message", .text f.message)])])

/-- A readable value is told by the reply that carries it, and by no other. -/
theorem Reply.tells_iff {r : Reply} {value : Json} (h : Readable levels value)
    (hlevels : levels < maxDepth) : r.Tells value ↔ r = .ofJson value := by
  constructor
  · obtain ⟨status, headers, body⟩ := r
    rintro ⟨rfl, rfl, rfl, -⟩
    rfl
  · rintro rfl
    exact ⟨rfl, rfl, rfl, h.reads.run hlevels⟩

theorem Failure.refuses (f : Failure) : f.reply.Refuses f where
  status := by
    refine ⟨rfl, ?_⟩
    cases f with
    | query failure => cases failure <;> simp [Failure.reply, Failure.status]
    | _ => simp [Failure.reply, Failure.status]
  headers := rfl
  read := by
    have hinner : Readable 1 (.object [("kind", .text f.kind), ("message", .text f.message)]) :=
      .object (by simp) (by simp)
    have houter : Readable 2 (.object [("error",
        .object [("kind", .text f.kind), ("message", .text f.message)])]) :=
      .object (by simp) (forall_mem_singleton.mpr hinner)
    exact houter.reads.run (by decide)

end Control

end TrafficCapture
