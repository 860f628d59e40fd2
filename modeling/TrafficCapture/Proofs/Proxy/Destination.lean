import TrafficCapture.Proofs.Proxy.Shape
import TrafficCapture.Proofs.Text.Numeral
import TrafficCapture.Proofs.Text.Search

/-! # URLs and destinations

The URL of a destination leaves out the port that the scheme implies. It names that destination
again exactly if the path begins with a slash, there is a host, no slash and no question mark is in
it, and it does not end like a port where none is written behind it. -/

namespace TrafficCapture

open List

namespace Proxy

/-! ## Hosts and ports -/

/-- The text ends in a colon and a port. -/
def NamesPort (text : List Char) : Prop :=
  ∃ front back port, text = front ++ ':' :: back ∧ ':' ∉ back ∧ Text.readPort back = .ok port

namespace Destination

theorem hostAndPort_append {back : List Char} {port : UInt16} (h : ':' ∉ back)
    (hport : Text.readPort back = .ok port) (front : List Char) (fallback : UInt16) :
    hostAndPort (front ++ ':' :: back) fallback = (String.ofList front, port) := by
  simp only [hostAndPort, Text.cutAtLast?_append h, hport]

theorem hostAndPort_of_not_namesPort {text : List Char} (h : ¬ NamesPort text)
    (fallback : UInt16) : hostAndPort text fallback = (String.ofList text, fallback) := by
  by_cases hmark : ':' ∈ text
  · obtain ⟨front, back, rfl, hback⟩ := Text.exists_last_mark hmark
    simp only [hostAndPort, Text.cutAtLast?_append hback]
    cases hport : Text.readPort back with
    | error _ => rfl
    | ok port => exact (h ⟨front, back, port, rfl, hback, hport⟩).elim
  · simp only [hostAndPort, Text.cutAtLast?_of_notMem hmark]

/-- A host that was cut off a port is shorter than both together. -/
theorem not_namesPort_of_hostAndPort {text : List Char} {fallback port : UInt16}
    (h : hostAndPort text fallback = (String.ofList text, port)) : ¬ NamesPort text := by
  rintro ⟨front, back, port', rfl, hback, hport⟩
  rw [hostAndPort_append hback hport, Prod.mk.injEq] at h
  have hlength := congrArg List.length (String.ofList_injective h.1)
  simp at hlength

/-- The host is the front of what it is cut from. -/
theorem hostAndPort_prefix (text : List Char) (fallback : UInt16) :
    (hostAndPort text fallback).1.toList <+: text := by
  by_cases h : NamesPort text
  · obtain ⟨front, back, port, rfl, hback, hport⟩ := h
    rw [hostAndPort_append hback hport, String.toList_ofList]
    exact prefix_append _ _
  · rw [hostAndPort_of_not_namesPort h, String.toList_ofList]

/-! ## Destinations that their URLs name -/

/-- The host and the port as a URL names them. -/
def authority (d : Destination) : List Char :=
  d.host.toList ++
    if d.port = d.scheme.defaultPort then [] else ':' :: Nat.toDigits 10 d.port.toNat

/-- A character that an authority cannot hold ends it. -/
def isAuthorityChar (c : Char) : Bool := c != '/' && c != '?'

/-- What the URL of a destination has to be like to name it. -/
structure Nameable (d : Destination) : Prop where
  rooted : ∃ rest, d.path.toList = '/' :: rest
  named : d.host ≠ ""
  plain : ∀ c ∈ d.host.toList, isAuthorityChar c = true
  portless : d.port = d.scheme.defaultPort → ¬ NamesPort d.host.toList

variable {d : Destination}

theorem toList_urlOf (d : Destination) :
    (urlOf d.scheme.name d.host d.port d.path).toList =
      (d.scheme.name ++ "://").toList ++
        (d.authority ++ if d.path.isEmpty then ['/'] else d.path.toList) := by
  obtain ⟨scheme, host, port, path⟩ := d
  have himplied : ((scheme.name == "https" && port == 443) ||
      (scheme.name == "http" && port == 80)) = (port == scheme.defaultPort) := by
    cases scheme <;> simp [Scheme.name, Scheme.defaultPort]
  have hport : (":" ++ toString port.toNat).toList = ':' :: Nat.toDigits 10 port.toNat := by
    simp [Nat.repr_eq_ofList_toDigits]
  simp only [urlOf, himplied, authority, String.toList_append, append_assoc, beq_iff_eq,
    apply_ite String.toList, hport]
  rfl

/-- A URL is understood by its scheme, whatever the headers are. -/
theorem resolve?_urlOf (d : Destination) (headers : Http.Headers) :
    resolve? (urlOf d.scheme.name d.host d.port d.path) headers =
      ofAuthority? d.scheme
        (d.authority ++ if d.path.isEmpty then ['/'] else d.path.toList) := by
  unfold resolve?
  rw [toList_urlOf]
  cases d.scheme with
  | http =>
      have hscheme : (Scheme.http.name ++ "://").toList = "http://".toList := rfl
      rw [hscheme, Text.dropFront?_append]
  | https =>
      have hscheme : (Scheme.https.name ++ "://").toList = "https://".toList := rfl
      have hother (rest : List Char) :
          Text.dropFront? "http://".toList ("https://".toList ++ rest) = none := rfl
      rw [hscheme, hother, Text.dropFront?_append]

theorem authority_plain (h : ∀ c ∈ d.host.toList, isAuthorityChar c = true) :
    ∀ c ∈ d.authority, isAuthorityChar c = true := by
  intro c hc
  rw [authority, mem_append] at hc
  rcases hc with hc | hc
  · exact h c hc
  · split at hc
    · cases hc
    · rcases mem_cons.mp hc with rfl | hc
      · rfl
      · have hdigit := Text.toNat_of_isDigit ((Text.isDecimal_toDigits _).digits c hc)
        have hslash : c ≠ '/' := by
          rintro rfl
          exact absurd hdigit (by decide)
        have hmark : c ≠ '?' := by
          rintro rfl
          exact absurd hdigit (by decide)
        simp [isAuthorityChar, hslash, hmark]

/-- Where the path begins with a slash, a plain authority ends there. -/
theorem span_authority (hplain : ∀ c ∈ d.host.toList, isAuthorityChar c = true)
    (rest : List Char) :
    (d.authority ++ '/' :: rest).span isAuthorityChar = (d.authority, '/' :: rest) := by
  have hslash : isAuthorityChar '/' = false := rfl
  rw [span_eq_takeWhile_dropWhile, takeWhile_append_of_pos (authority_plain hplain),
    dropWhile_append_of_pos (authority_plain hplain), takeWhile_cons_of_neg (by simp [hslash]),
    dropWhile_cons_of_neg (by simp [hslash]), append_nil]

theorem hostAndPort_authority (h : d.port = d.scheme.defaultPort → ¬ NamesPort d.host.toList) :
    hostAndPort d.authority d.scheme.defaultPort = (d.host, d.port) := by
  by_cases hdefault : d.port = d.scheme.defaultPort
  · rw [authority, if_pos hdefault, append_nil, hostAndPort_of_not_namesPort (h hdefault),
      String.ofList_toList, hdefault]
  · have hcolon : ':' ∉ Nat.toDigits 10 d.port.toNat := fun hmem =>
      absurd ((Text.isDecimal_toDigits _).digits _ hmem) (by decide)
    rw [authority, if_neg hdefault, hostAndPort_append hcolon (Text.readPort_toDigits d.port),
      String.ofList_toList]

/-- Whatever follows a scheme is understood as a host, which is not empty, and a path behind it. -/
theorem of_ofAuthority? {scheme : Scheme} {text : List Char}
    (h : ofAuthority? scheme text = some d) :
    hostAndPort (text.span isAuthorityChar).1 scheme.defaultPort = (d.host, d.port) ∧
      d.host ≠ "" ∧ ∃ rest, d.path.toList = '/' :: rest := by
  rcases hspan : text.span isAuthorityChar with ⟨front, back⟩
  rcases hnamed : hostAndPort front scheme.defaultPort with ⟨host, port⟩
  have hcut : text.span (fun c => c != '/' && c != '?') = (front, back) := hspan
  simp only [ofAuthority?, hcut, hnamed] at h
  split at h
  · cases h
  · rename_i hhost
    cases h
    refine ⟨rfl, by simpa using hhost, ?_⟩
    split
    · exact ⟨_, String.toList_ofList⟩
    · exact ⟨_, String.toList_ofList⟩

/-- The path is what follows the host, behind a slash. -/
theorem path_of_ofAuthority? {scheme : Scheme} {text : List Char}
    (h : ofAuthority? scheme text = some d) : ∀ c ∈ d.path.toList, c = '/' ∨ c ∈ text := by
  have hsuffix : (text.span isAuthorityChar).2 <:+ text := by
    rw [span_eq_takeWhile_dropWhile]
    exact dropWhile_suffix _
  rcases hspan : text.span isAuthorityChar with ⟨front, back⟩
  rcases hnamed : hostAndPort front scheme.defaultPort with ⟨host, port⟩
  have hcut : text.span (fun c => c != '/' && c != '?') = (front, back) := hspan
  rw [hspan] at hsuffix
  simp only [ofAuthority?, hcut, hnamed] at h
  split at h
  · cases h
  · cases h
    intro c hc
    split at hc
    · rw [String.toList_ofList] at hc
      exact .inr (hsuffix.subset hc)
    · rw [String.toList_ofList, mem_cons] at hc
      exact hc.imp_right fun hc => hsuffix.subset hc

/-- What is cut off at a slash or a question mark has none. -/
theorem plain_of_ofAuthority? {scheme : Scheme} {text : List Char}
    (h : ofAuthority? scheme text = some d) : ∀ c ∈ d.host.toList, isAuthorityChar c = true := by
  intro c hc
  have hfront := hostAndPort_prefix (text.span isAuthorityChar).1 scheme.defaultPort
  rw [(of_ofAuthority? h).1, span_eq_takeWhile_dropWhile] at hfront
  exact mem_takeWhile_imp (hfront.subset hc)

theorem isEmpty_path {rest : List Char} (h : d.path.toList = '/' :: rest) :
    d.path.isEmpty = false := by
  cases hempty : d.path.isEmpty with
  | false => rfl
  | true =>
      rw [String.isEmpty_iff.mp hempty] at h
      cases h

/-- A destination is understood from its URL exactly if it is nameable. -/
theorem resolve?_urlOf_iff (d : Destination) (headers : Http.Headers) :
    resolve? (urlOf d.scheme.name d.host d.port d.path) headers = some d ↔ d.Nameable := by
  rw [resolve?_urlOf]
  constructor
  · intro h
    obtain ⟨hnamed, hhost, rest, hrooted⟩ := of_ofAuthority? h
    have hpath := isEmpty_path hrooted
    have hplain := plain_of_ofAuthority? h
    refine ⟨⟨rest, hrooted⟩, hhost, hplain, fun hdefault => ?_⟩
    rw [hpath, if_neg (by decide), hrooted, span_authority hplain, authority, if_pos hdefault,
      append_nil] at hnamed
    apply not_namesPort_of_hostAndPort
    rw [hnamed, String.ofList_toList]
  · rintro ⟨⟨rest, hrooted⟩, hhost, hplain, hportless⟩
    have hspan := span_authority hplain rest
    have hnamed := hostAndPort_authority hportless
    have hempty : d.host.isEmpty = false := by
      cases hempty : d.host.isEmpty with
      | false => rfl
      | true => exact (hhost (String.isEmpty_iff.mp hempty)).elim
    unfold isAuthorityChar at hspan
    rw [isEmpty_path hrooted, if_neg (by decide), hrooted]
    simp only [ofAuthority?, hspan, hnamed, hempty]
    rw [← hrooted, String.ofList_toList, if_neg (by decide)]

/-- An authority that stands behind a scheme is named again unless its host ends like a port. -/
theorem nameable_iff_of_ofAuthority? {scheme : Scheme} {text : List Char}
    (h : ofAuthority? scheme text = some d) :
    d.Nameable ↔ (d.port = d.scheme.defaultPort → ¬ NamesPort d.host.toList) := by
  obtain ⟨-, hhost, hrooted⟩ := of_ofAuthority? h
  exact ⟨Nameable.portless, fun hportless =>
    ⟨hrooted, hhost, plain_of_ofAuthority? h, hportless⟩⟩

end Destination

/-! ## Recorded URLs -/

/-- The URL that is recorded of a request is understood as the destination of the request, whatever
headers it comes with, exactly if that destination is nameable. A target that begins with a scheme
leaves one thing to ask for: a host without a port does not end like one. The destination is where
the connection seeks its server and what the forwarded head asks for. -/
theorem url_identifies {head : Http.RequestHead} {request : Request}
    (h : Request.ofHead head = .ok request) (headers : Http.Headers) :
    let d := request.destination
    d.scheme = .http ∧
      (Destination.resolve? request.exchange.url headers = some d ↔ d.Nameable) ∧
      (∀ rest, head.target.toList = "http://".toList ++ rest →
        (d.Nameable ↔ (d.port = 80 → ¬ NamesPort d.host.toList))) ∧
      (request.headBytes = Text.Utf8.encode (request.method.token ++ " " ++ d.path ++ " " ++
        request.version ++ "\r\n" ++ fieldLines request.headers)) ∧
      ∀ held client clock found,
        (∀ w, (Passage.seek w (.under request held client clock found)).2.sought =
          w.sought ++ [(d.host, d.port)]) ∧
        ∀ stamp us r,
          (Passage.conclude stamp us (.under request held client clock found)).record = some r →
            r.url = request.exchange.url ∧ r.port = d.port := by
  intro d
  have hrequest := Request.of_ofHead h
  have hscheme : d.scheme = .http := hrequest.scheme
  refine ⟨hscheme, d.resolve?_urlOf_iff headers, fun rest htarget => ?_, rfl,
    fun held client clock found => ⟨fun w => rfl, fun stamp us r hr => ?_⟩⟩
  · have hresolve := hrequest.destination
    simp only [Destination.resolve?, htarget, Text.dropFront?_append] at hresolve
    have hport : d.scheme.defaultPort = 80 := by rw [hscheme]; rfl
    rw [Destination.nameable_iff_of_ofAuthority? hresolve, hport]
  · obtain ⟨_, hshaped⟩ := shaped_conclude hr
    exact ⟨hshaped.url, hshaped.port⟩

/-- The head of a request whose host field is empty. -/
def hostlessHead : Http.RequestHead := ⟨"GET", "/x", 1, [("Host", "")]⟩

/-- Without a host there is no destination to understand, and a host that ends like a port needs
one behind it. -/
theorem url_identifies_hosts :
    (∃ r, Request.ofHead hostlessHead = .ok r ∧ r.exchange.url = "http:///x" ∧
      Destination.resolve? r.exchange.url [] ≠ some r.destination) ∧
    ∃ r, Request.ofHead ⟨"GET", "/x?y", 1, [("Host", "a:81:8080")]⟩ = .ok r ∧
      r.exchange.url = "http://a:81:8080/x?y" ∧
      Destination.resolve? r.exchange.url [] = some r.destination := by
  constructor
  · have h : Request.ofHead hostlessHead =
        .ok ⟨.get, ⟨.http, "", 80, "/x"⟩, "HTTP/1.1", [("Host", "")], .empty⟩ := by decide +kernel
    refine ⟨_, h, by decide +kernel, fun hresolve => ?_⟩
    exact ((url_identifies h []).2.1.mp hresolve).named rfl
  · have h : Request.ofHead ⟨"GET", "/x?y", 1, [("Host", "a:81:8080")]⟩ =
        .ok ⟨.get, ⟨.http, "a:81", 8080, "/x?y"⟩, "HTTP/1.1", [("Host", "a:81:8080")], .empty⟩ := by
      decide +kernel
    refine ⟨_, h, by decide +kernel, ?_⟩
    have hplain := all_eq_true.mp (by decide : "a:81".toList.all Destination.isAuthorityChar = true)
    refine (url_identifies h []).2.1.mpr ⟨⟨_, rfl⟩, by decide, hplain, fun hport => ?_⟩
    cases hport

end Proxy

end TrafficCapture
