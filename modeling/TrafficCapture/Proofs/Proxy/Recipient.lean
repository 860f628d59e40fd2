import TrafficCapture.Proofs.Proxy.Acceptance
import TrafficCapture.Proofs.Text.Numeral

/-! # Recipients of forwarded requests

A recipient finds the end of a request body by all framing fields of the head that it receives, and
cannot tell where they contradict each other. The proxy goes by the first field of each name. Both
find the same end wherever the recipient finds one and the chunks, if they are what it finds, are
named by the first transfer coding field. -/

namespace TrafficCapture

open List

/-- The values of the fields of that name, without regard to case. -/
def Http.Headers.values (headers : Http.Headers) (name : String) : List String :=
  (headers.filter fun field => Text.equalIgnoringCase field.1 name).map (·.2)

theorem Http.Headers.value?_eq_head? (headers : Http.Headers) (name : String) :
    headers.value? name = (headers.values name).head? := by
  rw [value?, values, head?_map, head?_filter]

namespace Proxy

/-! ## What is forwarded -/

/-- The header fields of a forwarded head. -/
def forwardedFields (headers : Http.Headers) : Http.Headers :=
  (headers.filter fun field => !isHopByHop field.1) ++ [("Connection", "close")]

theorem fieldLines_eq (headers : Http.Headers) :
    fieldLines headers =
      String.join ((forwardedFields headers).map fun field =>
        field.1 ++ ": " ++ field.2 ++ "\r\n") ++ "\r\n" := by
  simp only [fieldLines, forwardedFields, map_append, String.join_append, String.append_assoc]
  rfl

theorem isHopByHop_congr {name other : String} (h : Text.equalIgnoringCase name other = true) :
    isHopByHop name = isHopByHop other := by
  rw [Text.equalIgnoringCase, beq_iff_eq] at h
  simp only [isHopByHop, Text.equalIgnoringCase, h]

/-- Fields that do not concern one connection alone are forwarded. -/
theorem values_forwardedFields {name : String} (h : isHopByHop name = false)
    (headers : Http.Headers) : (forwardedFields headers).values name = headers.values name := by
  have hkept (field : String × String) (hname : Text.equalIgnoringCase field.1 name = true) :
      isHopByHop field.1 = false :=
    (isHopByHop_congr hname).trans h
  have hclose : Text.equalIgnoringCase "Connection" name = false := by
    by_contra hname
    have hhop := hkept ("Connection", "close") (by simpa using hname)
    exact absurd hhop (by decide)
  simp only [Http.Headers.values, forwardedFields, filter_append, filter_filter, filter_cons,
    hclose, filter_nil, Bool.false_eq_true, if_false, append_nil]
  congr 1
  apply filter_congr
  intro field _
  cases hname : Text.equalIgnoringCase field.1 name with
  | false => rfl
  | true => rw [hkept field hname]; rfl

/-! ## What a recipient finds -/

/-- A space or a tab, which may stand around an element of a list. -/
def isListPadding (c : Char) : Bool := c == ' ' || c == '\t'

/-- The transfer codings that the values list, in order and in lower case. -/
def transferCodings (values : List String) : List String :=
  let elements := (Text.fields ',' (String.intercalate "," values).toList).map fun cs =>
    Text.dropEndWhile isListPadding (cs.dropWhile isListPadding)
  (elements.filter (· ≠ [])).map fun cs => Text.lowerAscii (String.ofList cs)

/-- How a recipient of these fields finds the end of a request body, unless they are ambiguous. -/
def Framing.received? (headers : Http.Headers) : Option Framing :=
  match headers.values "transfer-encoding", headers.values "content-length" with
  | [], [] => some .empty
  | [], length :: more =>
    if Text.IsDecimal length.toList ∧ ∀ value ∈ more, value = length then
      some (.fixed (Nat.ofDigitChars 10 length.toList 0))
    else none
  | value :: more, _ =>
    if (transferCodings (value :: more)).getLast? = some "chunked" then some .chunked else none

theorem received?_forwardedFields (headers : Http.Headers) :
    Framing.received? (forwardedFields headers) = Framing.received? headers := by
  unfold Framing.received?
  rw [values_forwardedFields (by decide), values_forwardedFields (by decide)]

/-- A coding is spelled out in the value that lists it. -/
theorem infix_of_mem_transferCodings {coding value : String}
    (h : coding ∈ transferCodings [value]) :
    coding.toList <:+: (Text.lowerAscii value).toList := by
  simp only [transferCodings, mem_map, mem_filter] at h
  obtain ⟨_, ⟨⟨field, hfield, rfl⟩, -⟩, rfl⟩ := h
  have hvalue : field <:+: value.toList := by
    simpa using Text.infix_of_mem_fields hfield
  have hfront : field.dropWhile isListPadding <:+: field := (dropWhile_suffix _).isInfix
  have hback : Text.dropEndWhile isListPadding (field.dropWhile isListPadding) <:+:
      field.dropWhile isListPadding := by
    have hreverse := dropWhile_suffix (l := (field.dropWhile isListPadding).reverse) isListPadding
    rw [← reverse_prefix] at hreverse
    simpa [Text.dropEndWhile] using hreverse.isInfix
  have hall := ((hback.trans hfront).trans hvalue).map Char.toLower
  simpa [Text.lowerAscii] using hall

/-! ## Agreement -/

theorem Framing.OfRequest.unique {headers : Http.Headers} {framing framing' : Framing}
    (h : OfRequest headers framing) (h' : OfRequest headers framing') : framing = framing' := by
  have hlength {n : ℕ} (hn : Announces headers n) (hnone : headers.value? "content-length" = none) :
      False := by
    obtain ⟨value, hvalue, -⟩ := hn
    cases hvalue.symm.trans hnone
  cases h with
  | chunked hc => cases h' <;> first | rfl | contradiction
  | fixed hc hn =>
      cases h' with
      | chunked hc' => exact (hc hc').elim
      | fixed _ hn' => rw [hn.unique hn']
      | empty _ hnone => exact (hlength hn hnone).elim
  | empty hc hnone =>
      cases h' with
      | chunked hc' => exact (hc hc').elim
      | fixed _ hn => exact (hlength hn hnone).elim
      | empty => rfl

section

variable {headers : Http.Headers} {framing : Framing}

/-- One transfer coding field that ends in chunks names them. -/
theorem namesChunks_of_received? (h : Framing.received? headers = some .chunked)
    (hone : (headers.values "transfer-encoding").length ≤ 1) : NamesChunks headers := by
  unfold Framing.received? at h
  split at h
  · cases h
  · split at h <;> cases h
  · rename_i value more hvalues
    obtain rfl : more = [] := by
      rw [hvalues, length_cons] at hone
      exact length_eq_zero_iff.mp (by omega)
    split at h
    · rename_i hlast
      have hmem := mem_of_getLast? hlast
      refine ⟨value, ?_, infix_of_mem_transferCodings hmem⟩
      rw [Http.Headers.value?_eq_head?, hvalues, head?_cons]
    · cases h

/-- What a recipient finds is what the first fields tell, if the chunks are named there. -/
theorem ofRequest_of_received?
    (hlength : ∀ value, headers.value? "content-length" = some value →
      ∃ n ≤ requestBodyLimit, Framing.readLength value = .ok n)
    (h : Framing.received? headers = some framing)
    (hchunks : framing = .chunked → NamesChunks headers) : Framing.OfRequest headers framing := by
  have hplain (hnone : headers.values "transfer-encoding" = []) : ¬ NamesChunks headers := by
    rintro ⟨value, hvalue, -⟩
    rw [Http.Headers.value?_eq_head?, hnone] at hvalue
    cases hvalue
  unfold Framing.received? at h
  split at h
  · rename_i hcodings hlengths
    cases h
    refine .empty (hplain hcodings) ?_
    rw [Http.Headers.value?_eq_head?, hlengths, head?_nil]
  · rename_i length more hcodings hlengths
    split at h
    · rename_i hsame
      cases h
      have hfirst : headers.value? "content-length" = some length := by
        rw [Http.Headers.value?_eq_head?, hlengths, head?_cons]
      obtain ⟨n, -, hread⟩ := hlength length hfirst
      refine .fixed (hplain hcodings) ⟨length, hfirst, ?_⟩
      rw [Framing.readLength, Text.trim_of_isDigit hsame.1.digits,
        hsame.1.readUnsigned_eq] at hread ⊢
      split at hread
      · rename_i hfits
        rw [if_pos hfits]
      · cases hread
    · cases h
  · split at h
    · cases h
      exact .chunked (hchunks rfl)
    · cases h

end

/-- The proxy always goes by the first fields. The head of an accepted request is sent on with
fields in which a recipient finds the end of the body where the proxy finds it, unless they are
ambiguous. The chunks that a recipient finds have to be named by the first transfer coding field, as
they are if it is the only one. -/
theorem framing_alike {head : Http.RequestHead} {request : Request}
    (h : Request.ofHead head = .ok request) :
    let sent := forwardedFields head.headers
    request.headBytes =
        Text.Utf8.encode (request.method.token ++ " " ++ request.destination.path ++ " " ++
          request.version ++ "\r\n" ++
            (String.join (sent.map fun field => field.1 ++ ": " ++ field.2 ++ "\r\n") ++ "\r\n")) ∧
      (∀ framing, Framing.received? sent = some framing →
        (NamesChunks head.headers ∨ (head.headers.values "transfer-encoding").length ≤ 1) →
          request.framing = framing) ∧
      Framing.OfRequest head.headers request.framing := by
  intro sent
  have hrequest := Request.of_ofHead h
  refine ⟨?_, fun framing hreceived hnamed => ?_, hrequest.framing⟩
  · rw [← fieldLines_eq, ← hrequest.headers]
    rfl
  · rw [received?_forwardedFields] at hreceived
    have hchunks : framing = .chunked → NamesChunks head.headers := by
      rintro rfl
      exact hnamed.elim id (namesChunks_of_received? hreceived)
    exact hrequest.framing.unique (ofRequest_of_received? hrequest.length hreceived hchunks)

/-- A head with a list of codings that ends in chunks, and a length. -/
def codedHead : Http.RequestHead :=
  ⟨"POST", "http://page/", 1, [("Transfer-Encoding", "gzip, Chunked"), ("Content-Length", "3")]⟩

/-- A head that announces the same length twice. -/
def sameLengthsHead : Http.RequestHead :=
  ⟨"POST", "http://page/", 1, [("Content-Length", "03"), ("content-length", "03")]⟩

theorem framing_alike_lists :
    (∃ request, Request.ofHead codedHead = .ok request ∧
      Framing.received? (forwardedFields codedHead.headers) = some .chunked ∧
        request.framing = .chunked) ∧
    ∃ request, Request.ofHead sameLengthsHead = .ok request ∧
      Framing.received? (forwardedFields sameLengthsHead.headers) = some (.fixed 3) ∧
        request.framing = .fixed 3 := by
  constructor
  · have h : Request.ofHead codedHead = .ok ⟨.post, ⟨.http, "page", 80, "/"⟩, "HTTP/1.1",
        codedHead.headers, .chunked⟩ := by decide +kernel
    have hreceived : Framing.received? (forwardedFields codedHead.headers) = some .chunked := by
      decide +kernel
    exact ⟨_, h, hreceived, (framing_alike h).2.1 _ hreceived (.inr (by decide +kernel))⟩
  · have h : Request.ofHead sameLengthsHead = .ok ⟨.post, ⟨.http, "page", 80, "/"⟩, "HTTP/1.1",
        sameLengthsHead.headers, .fixed 3⟩ := by decide +kernel
    have hreceived : Framing.received? (forwardedFields sameLengthsHead.headers) =
        some (.fixed 3) := by decide +kernel
    exact ⟨_, h, hreceived, (framing_alike h).2.1 _ hreceived (.inr (by decide +kernel))⟩

/-- A head that announces two lengths. -/
def twoLengths : Bytes :=
  Bytes.ofAscii "POST http://page/ HTTP/1.1\r\nContent-Length: 3\r\nContent-Length: 5\r\n\r\n"

def twoLengthsHead : Http.RequestHead :=
  ⟨"POST", "http://page/", 1, [("Content-Length", "3"), ("Content-Length", "5")]⟩

/-- A request with two lengths is accepted. A recipient cannot tell which of them counts, and the
first one counts for the proxy. -/
theorem framing_ambiguous :
    Http.Head.request fieldLimit twoLengths = .ok (twoLengthsHead, []) ∧
      ∃ request, Request.ofHead twoLengthsHead = .ok request ∧ request.framing = .fixed 3 ∧
        Framing.received? (forwardedFields request.headers) = none :=
  ⟨by decide +kernel,
    ⟨.post, ⟨.http, "page", 80, "/"⟩, "HTTP/1.1", twoLengthsHead.headers, .fixed 3⟩,
    by decide +kernel, rfl, by decide +kernel⟩

end Proxy

end TrafficCapture
