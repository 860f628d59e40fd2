import TrafficCapture.Proofs.Proxy.Forwarding

/-! # Methods of forwarded requests

The proxy knows nine methods, in any mixture of cases, and takes every other token for the first of
them. The method that it sends on is the one that it records. -/

namespace TrafficCapture

open List Text

/-! ## Tokens -/

namespace Http.Method

/-- The method that a token stands for: the one whose name it is in any mixture of cases, and
`get` if it is the name of none. -/
inductive StandsFor (text : String) : Method → Prop
  | known {m : Method} (h : equalIgnoringCase text m.token = true) : StandsFor text m
  | unknown (h : ∀ m : Method, equalIgnoringCase text m.token = false) : StandsFor text .get

/-- Upper and lower case forget the same of a character of ASCII. -/
theorem case_of_ascii {c : Char} (h : c.toNat < 0x80) :
    upperToAscii c = [c.toUpper] ∧ c.toUpper.toLower = c.toLower ∧
      c.toLower.toUpper = c.toUpper := by
  have hall : ∀ n < 0x80, upperToAscii (Char.ofNat n) = [(Char.ofNat n).toUpper] ∧
      (Char.ofNat n).toUpper.toLower = (Char.ofNat n).toLower ∧
        (Char.ofNat n).toLower.toUpper = (Char.ofNat n).toUpper := by
    decide
  have hc := hall c.toNat h
  rwa [Char.ofNat_toNat] at hc

theorem upper_of_ascii {cs : List Char} (h : ∀ c ∈ cs, c.toNat < 0x80) :
    cs.flatMap upperToAscii = cs.map Char.toUpper := by
  induction cs with
  | nil => rfl
  | cons c cs ih =>
      obtain ⟨hc, hcs⟩ := forall_mem_cons.mp h
      rw [flatMap_cons, (case_of_ascii hc).1, ih hcs, map_cons, singleton_append]

/-- The name of a method is written in upper case. -/
theorem token_upper (m : Method) :
    (m.token.toList.map Char.toLower).map Char.toUpper = m.token.toList := by
  cases m <;> rfl

variable {text : String} {m : Method}

theorem upper_eq_token_iff (h : ∀ c ∈ text.toList, c.toNat < 0x80) :
    text.toList.flatMap upperToAscii = m.token.toList ↔ equalIgnoringCase text m.token = true := by
  have hlower : (text.toList.map Char.toUpper).map Char.toLower = text.toList.map Char.toLower := by
    rw [map_map]
    exact map_congr_left fun c hc => (case_of_ascii (h c hc)).2.1
  have hupper : (text.toList.map Char.toLower).map Char.toUpper = text.toList.map Char.toUpper := by
    rw [map_map]
    exact map_congr_left fun c hc => (case_of_ascii (h c hc)).2.2
  rw [upper_of_ascii h, equalIgnoringCase, beq_iff_eq]
  constructor
  · intro heq
    rw [← hlower, heq]
  · intro heq
    rw [← hupper, heq, token_upper]

theorem token_injective {m n : Method} (h : m.token = n.token) : m = n := by
  cases m <;> cases n <;> first | rfl | exact absurd h (by decide)

theorem mem_all (m : Method) : m ∈ all := by
  cases m <;> decide

/-- No text is the name of two methods. -/
theorem StandsFor.unique {n : Method} (h : StandsFor text m) (h' : StandsFor text n) : m = n := by
  cases h with
  | known h =>
      cases h' with
      | known h' =>
          rw [equalIgnoringCase, beq_iff_eq] at h h'
          apply token_injective
          rw [← String.toList_inj, ← token_upper m, ← token_upper n, ← h, ← h']
      | unknown h' => cases (h' m).symm.trans h
  | unknown h =>
      cases h' with
      | known h' => cases (h n).symm.trans h'
      | unknown => rfl

/-- A token is the name of the method that it stands for if it is the name of any. -/
theorem StandsFor.token_eq_iff (h : StandsFor text m) :
    m.token = text ↔ ∃ n : Method, text = n.token := by
  constructor
  · intro heq
    exact ⟨m, heq.symm⟩
  · rintro ⟨n, rfl⟩
    have hname : equalIgnoringCase n.token n.token = true := by simp [equalIgnoringCase]
    rw [h.unique (.known hname)]

theorem standsFor_ofToken (h : ∀ c ∈ text.toList, c.toNat < 0x80) :
    StandsFor text (ofToken text) := by
  simp only [ofToken]
  cases hfind : all.find? fun m => m.token.toList == text.toList.flatMap upperToAscii with
  | some m =>
      have hname := find?_some hfind
      rw [beq_iff_eq, eq_comm, upper_eq_token_iff h] at hname
      exact .known hname
  | none =>
      refine .unknown fun m => ?_
      have hname := find?_eq_none.mp hfind m (mem_all m)
      rw [beq_iff_eq, eq_comm, upper_eq_token_iff h, Bool.not_eq_true] at hname
      exact hname

/-- A token is taken for the method that it stands for. -/
theorem ofToken_eq_iff (h : ∀ c ∈ text.toList, c.toNat < 0x80) :
    ofToken text = m ↔ StandsFor text m := by
  constructor
  · rintro rfl
    exact standsFor_ofToken h
  · exact (standsFor_ofToken h).unique

end Http.Method

namespace Proxy

open Net
open Http.Head (WireRequest RequestText)

/-! ## Records -/

/-- What an exchange has from its request alone, apart from the body of that. -/
def asked (e : Exchange) : Exchange :=
  { id := e.id, port := e.port, method := e.method, url := e.url, version := e.version
    requestHeaders := e.requestHeaders, requestType := e.requestType }

section

variable {request : Request} {start : ℕ} {e r : Exchange} {held : Bytes} {client server : Peer}
  {clock : Clock}

theorem asked_breakdown {b : Breakdown} {server : Option Peer}
    (h : (Closing.breakdown b start e client server clock).record = some r) :
    asked r = asked e := by
  simp only [Closing.breakdown] at h
  split at h
  · cases h
    rfl
  · cases h

theorem asked_relay {head : Http.ResponseHead}
    (h : (Closing.relay request start e head held client server clock).record = some r) :
    asked r = asked e := by
  simp only [Closing.relay] at h
  split at h
  · cases h
  · cases h
    rfl
  · cases h
    rfl

theorem asked_respond (h : (Closing.respond request start e client server clock).record = some r) :
    asked r = asked e := by
  unfold Closing.respond at h
  split at h
  · cases h
  · exact asked_breakdown h
  · split at h
    · exact asked_breakdown h
    · exact (asked_relay h).trans rfl

theorem asked_ofRequest {server : Option Peer}
    (h : (Closing.ofRequest request start e held client clock server).record = some r) :
    asked r = asked e := by
  cases server with
  | none => exact asked_breakdown h
  | some server =>
      simp only [Closing.ofRequest] at h
      split at h
      · cases h
      · exact (asked_breakdown h).trans rfl
      · exact (asked_respond h).trans rfl

/-- Whatever becomes of a request, its record has the method, the version and the fields of it. -/
theorem asked_conclude {stamp : Stamp} {servers : List Server} {found : Option ℕ}
    (h : (Passage.conclude stamp servers (.under request held client clock found)).record =
      some r) : asked r = asked { request.exchange with id := stamp.id } := by
  simp only [Passage.conclude] at h
  split at h
  · exact (asked_ofRequest h).trans rfl
  · split at h
    · exact (asked_ofRequest h).trans rfl
    · cases h

end

/-! ## Requests -/

theorem headBytes_eq_cons (request : Request) :
    ∃ more, request.headBytes = Utf8.encode request.method.token ++ 32 :: more := by
  have hspace : Utf8.encode " " = [32] := rfl
  refine ⟨Utf8.encode (request.destination.path ++ " " ++ request.version ++ "\r\n" ++
    fieldLines request.headers), ?_⟩
  simp only [Request.headBytes, Utf8.encode_append, hspace, append_assoc, cons_append, nil_append]

/-- The method of an accepted request is the one that its token stands for. That method is the
first word of the head that is sent on, and it is the token that came if and only if that is the
name of a method as it is written. Whatever is recorded of the request has the same method. -/
theorem method_forwarded {raw rest : Bytes} {head : Http.RequestHead} {request : Request}
    (hread : Http.Head.request fieldLimit raw = .ok (head, rest))
    (h : Request.ofHead head = .ok request) :
    ∃ w text, RequestText w text ∧ raw = text ++ rest ∧ head = w.read ∧
      Utf8.encode head.method = w.method ∧
      Http.Method.StandsFor head.method request.method ∧ request.method ≠ .connect ∧
      (∃ more, request.headBytes = Utf8.encode request.method.token ++ 32 :: more) ∧
      (Utf8.encode request.method.token = w.method ↔
        ∃ m : Http.Method, w.method = Utf8.encode m.token) ∧
      ∀ held client clock found stamp servers r,
        (Passage.conclude stamp servers (.under request held client clock found)).record =
          some r → r.method = request.method := by
  obtain ⟨w, text, htext, -, hraw, rfl⟩ := Http.Head.request_eq_ok_iff.mp hread
  have hrequest := Request.of_ofHead h
  have htoken : Utf8.encode w.read.method = w.method :=
    Http.Head.encode_decodeLossy_token w.token
  have hascii : ∀ c ∈ w.read.method.toList, c.toNat < 0x80 := by
    apply Utf8.ascii_of_encode
    rw [htoken]
    exact fun b hb => Http.Head.isTokenByte_lt ((Http.Head.isToken_iff.mp w.token).2 b hb)
  have hstands := (Http.Method.ofToken_eq_iff hascii).mp hrequest.method.symm
  refine ⟨w, text, htext, hraw, rfl, htoken, hstands, hrequest.tunnel, headBytes_eq_cons request,
    ?_, ?_⟩
  · simp only [← htoken, Utf8.encode_inj]
    exact hstands.token_eq_iff
  · intro held client clock found stamp servers r hr
    exact congrArg Exchange.method (asked_conclude hr)

def patchRequest : Request := ⟨.patch, ⟨.http, "page", 80, "/"⟩, "HTTP/1.1", [], .empty⟩

/-- A method in lower case is sent on and recorded in upper case. -/
theorem method_forwarded_patch :
    (∃ more, patchRequest.headBytes = Utf8.encode "PATCH" ++ 32 :: more) ∧
      ∃ r, (Passage.conclude ⟨"0", 0⟩ [] (.under patchRequest [] {} ⟨100, []⟩ none)).record =
        some r ∧ r.method = .patch := by
  have hread : Http.Head.request fieldLimit
      (Bytes.ofAscii "patch http://page/ HTTP/1.1\r\n\r\n") =
        .ok (⟨"patch", "http://page/", 1, []⟩, []) := by decide +kernel
  have h : Request.ofHead ⟨"patch", "http://page/", 1, []⟩ = .ok patchRequest := by
    rfl
  have hrecord : (Passage.conclude ⟨"0", 0⟩ []
      (.under patchRequest [] {} ⟨100, []⟩ none)).record.isSome = true := by rfl
  obtain ⟨r, hr⟩ := Option.isSome_iff_exists.mp hrecord
  obtain ⟨-, -, -, -, -, -, -, -, hfirst, -, hmethod⟩ := method_forwarded hread h
  exact ⟨hfirst, r, hr, hmethod _ _ _ _ _ _ r hr⟩

/-- A method that the proxy does not know is sent on as another one. -/
theorem unknown_method_replaced :
    Http.Head.request fieldLimit (Bytes.ofAscii "PROPFIND http://page/ HTTP/1.1\r\n\r\n") =
        .ok (⟨"PROPFIND", "http://page/", 1, []⟩, []) ∧
      ∃ request, Request.ofHead ⟨"PROPFIND", "http://page/", 1, []⟩ = .ok request ∧
        request.headBytes = Bytes.ofAscii "GET / HTTP/1.1\r\nConnection: close\r\n\r\n" ∧
        request.exchange.method = .get :=
  ⟨by decide +kernel, ⟨.get, ⟨.http, "page", 80, "/"⟩, "HTTP/1.1", [], .empty⟩,
    by rfl, by rfl, rfl⟩

end Proxy

end TrafficCapture
