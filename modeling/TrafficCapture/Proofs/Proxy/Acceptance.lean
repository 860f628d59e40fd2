import TrafficCapture.Proofs.Proxy.Response

/-! # Requests that are accepted

What an accepted request takes from its head. Its framing is what the first transfer coding field
and the first length field tell. -/

namespace TrafficCapture.Proxy

/-- The framing of a request body. -/
inductive Framing.OfRequest (headers : Http.Headers) : Framing → Prop where
  | chunked (hc : NamesChunks headers) : OfRequest headers .chunked
  | fixed {n : ℕ} (hc : ¬ NamesChunks headers) (hn : Announces headers n) :
      OfRequest headers (.fixed n)
  | empty (hc : ¬ NamesChunks headers) (hn : headers.value? "content-length" = none) :
      OfRequest headers .empty

/-- A request that a head stands for. -/
structure Request.OfHead (head : Http.RequestHead) (request : Request) : Prop where
  method : request.method = Http.Method.ofToken head.method
  tunnel : request.method ≠ .connect
  destination : Destination.resolve? head.target head.headers = some request.destination
  scheme : request.destination.scheme = .http
  version : request.version = Http.versionText head.minor
  headers : request.headers = head.headers
  /-- What announces a length can be read, and is not too large. -/
  length : ∀ value, head.headers.value? "content-length" = some value →
    ∃ n ≤ requestBodyLimit, Framing.readLength value = .ok n
  framing : Framing.OfRequest head.headers request.framing

/-- With every length readable, the length at hand is the one that is announced. -/
theorem Framing.ofRequest_spec {headers : Http.Headers}
    (h : ∀ value, headers.value? "content-length" = some value → ∃ n, readLength value = .ok n) :
    OfRequest headers
      (ofRequest (((headers.value? "content-length").map readLength).bind Except.toOption)
        headers) := by
  unfold ofRequest
  split
  · rename_i hchunked
    exact .chunked ((isChunked_iff headers).mp hchunked)
  · rename_i hchunked
    have hplain := mt (isChunked_iff headers).mpr hchunked
    cases hvalue : headers.value? "content-length" with
    | none => exact .empty hplain hvalue
    | some value =>
        obtain ⟨n, hn⟩ := h value hvalue
        simp only [Option.map_some, hn, Option.bind_some, Except.toOption]
        exact .fixed hplain ⟨value, hvalue, hn⟩

theorem Request.of_ofHead {head : Http.RequestHead} {request : Request}
    (h : Request.ofHead head = .ok request) : request.OfHead head := by
  unfold Request.ofHead at h
  simp only at h
  split at h
  · cases h
  · rename_i hconnect
    split at h
    · cases h
    · rename_i hreadable
      split at h
      · cases h
      · rename_i hsmall
        have hlength : ∀ value, head.headers.value? "content-length" = some value →
            ∃ n ≤ requestBodyLimit, Framing.readLength value = .ok n := by
          intro value hvalue
          cases hread : Framing.readLength value with
          | error fault =>
              refine (hreadable fault ?_).elim
              rw [hvalue, Option.map_some, hread]
          | ok n =>
              refine ⟨n, ?_, rfl⟩
              simpa [hvalue, hread, Except.toOption] using hsmall
        split at h
        · cases h
        · rename_i destination hresolve
          split at h
          · cases h
          · rename_i hscheme
            cases h
            refine ⟨rfl, by simpa using hconnect, hresolve, by simpa using hscheme, rfl, rfl,
              hlength, ?_⟩
            exact Framing.ofRequest_spec fun value hvalue =>
              let ⟨n, _, hn⟩ := hlength value hvalue
              ⟨n, hn⟩

end TrafficCapture.Proxy
