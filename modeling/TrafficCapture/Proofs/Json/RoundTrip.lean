import TrafficCapture.Assertion.Result
import TrafficCapture.Exchange.Json
import TrafficCapture.Har.Json
import TrafficCapture.Proofs.Json.Record
import TrafficCapture.Query.Spec

/-! # Round trips

What is written for exchanges, queries, results of assertions and entries of archives is read back
as the same, member by member. -/

namespace TrafficCapture

open List Json

/-! ## Exchanges -/

theorem Http.Method.reads (levels : ℕ) (m : Method) : Reads levels Method.reader m.toJson m :=
  reads_tag levels (by cases m <;> decide)

theorem Outcome.reads (levels : ℕ) (o : Outcome) : Reads levels Outcome.reader o.toJson o :=
  reads_tag levels (by cases o <;> decide)

theorem Http.Headers.reads (levels : ℕ) (headers : Headers) :
    Reads (levels + 2) Headers.reader headers.toJson headers :=
  reads_list fun field _ => reads_pair (reads_text levels field.1) (reads_text levels field.2)

theorem bodyReader_reads (levels : ℕ) (body : Bytes) :
    Reads (levels + 1) bodyReader (bodyToJson body) body :=
  reads_list fun b _ => reads_word8 levels b

section

variable (levels : ℕ)

theorem reads_optionalText (s : Option String) :
    Reads levels (readOption readText) (.option .text s) s :=
  reads_option s (reads_text levels) (by simp)

theorem reads_optionalWord16 (n : Option UInt16) :
    Reads levels (readOption readWord16) (.option (nat ·.toNat) n) n :=
  reads_option n (reads_word16 levels) (by simp [nat])

theorem reads_optionalWord32 (n : Option UInt32) :
    Reads levels (readOption readWord32) (.option (nat ·.toNat) n) n :=
  reads_option n (reads_word32 levels) (by simp [nat])

theorem reads_optionalWord64 (n : Option UInt64) :
    Reads levels (readOption readWord64) (.option (nat ·.toNat) n) n :=
  reads_option n (reads_word64 levels) (by simp [nat])

theorem reads_optionalBody (body : Option Bytes) :
    Reads (levels + 1) (readOption bodyReader) (.option bodyToJson body) body :=
  reads_option body (bodyReader_reads levels) (by simp [bodyToJson])

theorem Timing.reads (t : Timing) : Reads (levels + 1) Timing.reader t.toJson t := by
  refine Fills.reads ?_ (by simp)
  exact .required (reads_signed64 levels t.startedAt) <|
    .optional (reads_optionalWord32 levels t.send) <|
    .optional (reads_optionalWord32 levels t.wait) <|
    .optional (reads_optionalWord32 levels t.receive) <|
    .optional (reads_optionalWord32 levels t.total) .done

theorem Exchange.reads (e : Exchange) : Reads (levels + 3) Exchange.reader e.toJson e := by
  refine Fills.reads ?_ (by simp)
  exact .required (reads_word64 _ e.sequence) <|
    .required (reads_text _ e.id) <|
    .required (reads_word16 _ e.port) <|
    .required (Http.Method.reads _ e.method) <|
    .required (reads_text _ e.url) <|
    .required (reads_text _ e.version) <|
    .required (Outcome.reads _ e.outcome) <|
    .required (Http.Headers.reads levels e.requestHeaders) <|
    .optional (reads_optionalBody (levels + 1) e.requestBody) <|
    .optional (reads_optionalText _ e.requestType) <|
    .optional (reads_optionalWord16 _ e.status) <|
    .optional (reads_optionalText _ e.reason) <|
    .required (Http.Headers.reads levels e.responseHeaders) <|
    .optional (reads_optionalBody (levels + 1) e.responseBody) <|
    .optional (reads_optionalText _ e.responseType) <|
    .optional (reads_optionalWord64 _ e.responseSize) <|
    .required (Timing.reads (levels + 1) e.timing) <|
    .optional (reads_optionalText _ e.note) .done

/-! ## Queries and results -/

theorem Query.Spec.reads (s : Query.Spec) : Reads (levels + 1) Query.Spec.reader s.toJson s := by
  refine Fills.reads ?_ (by simp)
  exact .optional (reads_optionalWord16 levels s.port) <|
    .required (reads_text levels s.urlPattern) .done

namespace Assertion

theorem Scope.reads (s : Scope) : Reads (levels + 1) Scope.reader s.toJson s := by
  refine Fills.reads ?_ (by simp)
  exact .optionalMember (by decide) (reads_text levels) (by simp) rfl rfl <|
    .optionalMember (by decide) (reads_word16 levels) (by simp [nat]) rfl (append_nil _).symm .done

theorem Verdict.reads (v : Verdict) : Reads (levels + 1) Verdict.reader v.toJson v := by
  refine Fills.reads ?_ (by simp)
  exact .required (reads_text levels v.url) <|
    .required (reads_bool levels v.failed) <|
    .optionalMember (by decide) (reads_text levels) (by simp) rfl (append_nil _).symm .done

theorem Result.reads (r : Result) : Reads (levels + 3) Result.reader r.toJson r := by
  refine Fills.reads ?_ (by simp)
  exact .required (reads_text _ r.message) <|
    .required (reads_bool _ r.passed) <|
    .required (reads_bool _ r.failed) <|
    .required (Scope.reads (levels + 1) r.scope) <|
    .required (reads_list fun v _ => Verdict.reads levels v) .done

end Assertion

/-! ## Entries of archives -/

namespace Har

theorem NameValue.reads (p : NameValue) : Reads (levels + 1) NameValue.reader p.toJson p := by
  refine Fills.reads ?_ (by simp)
  exact .required (reads_text levels p.name) <| .required (reads_text levels p.value) .done

theorem reads_nameValues (ps : List NameValue) :
    Reads (levels + 2) (readList NameValue.reader) (.list (ps.map NameValue.toJson)) ps :=
  reads_list fun p _ => NameValue.reads levels p

theorem PostData.reads (p : PostData) : Reads (levels + 1) PostData.reader p.toJson p := by
  refine Fills.reads ?_ (by simp)
  exact .required (reads_text levels p.mimeType) <|
    .required (reads_text levels p.text) <|
    .optionalMember (by decide) (reads_text levels) (by simp) rfl (append_nil _).symm .done

theorem Content.reads (c : Content) : Reads (levels + 1) Content.reader c.toJson c := by
  refine Fills.reads ?_ (by simp)
  exact .required (reads_signed64 levels c.size) <|
    .required (reads_text levels c.mimeType) <|
    .optionalMember (by decide) (reads_text levels) (by simp) rfl rfl <|
    .optionalMember (by decide) (reads_text levels) (by simp) rfl (append_nil _).symm .done

theorem reads_noCookies : Reads (levels + 1) (readList readAny) (.list []) [] := by
  have hnone : ∀ v ∈ ([] : List Json), Reads levels readAny (id v) v := nofun
  exact reads_list hnone

theorem reads_noCache : Reads (levels + 1) (readMap readAny) (.object []) [] := by
  have hnone : ∀ m ∈ ([] : List (String × Json)), Reads levels readAny (id m.2) m.2 := nofun
  exact reads_map hnone nodup_nil

theorem Request.reads (e : Exchange) :
    Reads (levels + 3) Request.reader (Request.ofExchange e).toJson (Request.ofExchange e) := by
  refine Fills.reads ?_ (by simp)
  exact .required (reads_text _ _) <|
    .required (reads_text _ _) <|
    .required (reads_text _ _) <|
    .required (reads_nameValues levels _) <|
    .required (reads_nameValues levels _) <|
    .required (reads_noCookies (levels + 1)) <|
    .required (reads_signed64 _ _) <|
    .required (reads_signed64 _ _) <|
    .optionalMember (by decide) (PostData.reads (levels + 1)) (by simp [PostData.toJson]) rfl
      (append_nil _).symm .done

theorem Response.reads (e : Exchange) :
    Reads (levels + 3) Response.reader (Response.ofExchange e).toJson (Response.ofExchange e) := by
  refine Fills.reads ?_ (by simp)
  exact .required (reads_signed64 _ _) <|
    .required (reads_text _ _) <|
    .required (reads_text _ _) <|
    .required (reads_nameValues levels _) <|
    .required (reads_noCookies (levels + 1)) <|
    .required (Content.reads (levels + 1) _) <|
    .required (reads_text _ _) <|
    .required (reads_signed64 _ _) <|
    .required (reads_signed64 _ _) .done

theorem Timings.reads (t : Timings) : Reads (levels + 1) Timings.reader t.toJson t := by
  refine Fills.reads ?_ (by simp)
  exact .required (reads_signed64 levels t.send) <|
    .required (reads_signed64 levels t.wait) <|
    .required (reads_signed64 levels t.receive) .done

theorem Entry.reads (e : Exchange) :
    Reads (levels + 4) Entry.reader (Entry.ofExchange e).toJson (Entry.ofExchange e) := by
  refine Fills.reads ?_ (by simp)
  exact .required (reads_word64 _ _) <|
    .required (reads_word16 _ _) <|
    .required (reads_text _ _) <|
    .required (reads_text _ _) <|
    .required (reads_signed64 _ _) <|
    .required (Request.reads levels e) <|
    .required (Response.reads levels e) <|
    .required (reads_noCache (levels + 2)) <|
    .required (Timings.reads (levels + 2) _) .done

end Har

end

/-- Whatever its texts and numbers are and whichever of its parts are absent, what is written for
an exchange, for a query, for the result of an assertion or its scope, and for the entry of an
exchange in an archive, is read back as the same. -/
theorem json_roundTrip :
    (∀ e : Exchange, Exchange.reader.run e.toJson.render = .ok e) ∧
      (∀ s : Query.Spec, Query.Spec.reader.run s.toJson.render = .ok s) ∧
      (∀ r : Assertion.Result, Assertion.Result.reader.run r.toJson.render = .ok r) ∧
      (∀ s : Assertion.Scope, Assertion.Scope.reader.run s.toJson.render = .ok s) ∧
      ∀ e : Exchange, Har.Entry.reader.run (Har.Entry.ofExchange e).toJson.render =
        .ok (Har.Entry.ofExchange e) :=
  ⟨fun e => (Exchange.reads 0 e).run (by decide), fun s => (Query.Spec.reads 0 s).run (by decide),
    fun r => (Assertion.Result.reads 0 r).run (by decide),
    fun s => (Assertion.Scope.reads 0 s).run (by decide),
    fun e => (Har.Entry.reads 0 e).run (by decide)⟩

end TrafficCapture
