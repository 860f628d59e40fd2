import Mathlib.Data.List.Forall2
import TrafficCapture.Proofs.Proxy.Forwarding

/-! # Values of forwarded fields

Header fields go through the proxy as text, in both directions. Those that concern more than one
connection are sent on in order, each with its own name and with its value mended: a value that is
well-formed UTF-8 keeps its bytes, and no other value does. Apart from its fields, the head of a
response is read again as it came. -/

namespace TrafficCapture.Proxy

open List Text
open Http.Head (WireField WireRequest WireResponse RequestText ResponseText ReasonText)

/-- A line sends a field on: it has the name of the field, and its value with every ill-formed
stretch replaced. -/
structure Passes (f : WireField) (line : Bytes) : Prop where
  mended : ∃ value, Utf8.Mended f.value value ∧ line = f.name ++ 58 :: 32 :: value
  unchanged : line = f.line ↔ Utf8.WellFormed f.value

/-- A head sends fields on: behind its first line there is one line for each field that does not
concern one connection alone, in order, and then the field that ends the connection. -/
def PassesAll (fs : List WireField) (sent : Bytes) : Prop :=
  ∃ first lines, sent = Bytes.ofLines (first :: (lines ++ [closeField.line])) ∧
    (∀ line ∈ first :: lines, Bytes.IsLine line) ∧
    Forall₂ Passes (fs.filter fun f => !isHopByHop f.read.1) lines

theorem passes_mended (f : WireField) : Passes f f.mended.line := by
  have hmended : Utf8.Mended f.value f.mended.value := Utf8.mended_iff.mpr rfl
  refine ⟨⟨f.mended.value, hmended, rfl⟩, ?_⟩
  rw [← hmended.eq_iff]
  constructor
  · intro h
    simpa [WireField.line, WireField.mended] using h
  · intro h
    rw [WireField.line, WireField.line, h]
    rfl

/-- The fields of any head are sent on behind its first line. -/
theorem passesAll_head {first : String} (hfirst : Bytes.IsLine (Utf8.encode first))
    (fs : List WireField) :
    PassesAll fs (Utf8.encode (first ++ "\r\n" ++ fieldLines (fs.map WireField.read))) := by
  refine ⟨Utf8.encode first, (fs.filter fun f => !isHopByHop f.read.1).map fun f => f.mended.line,
    ?_, ?_, ?_⟩
  · rw [encode_head, headLines_read, sentFields, map_append, map_map]
    rfl
  · rw [forall_mem_cons, forall_mem_map]
    exact ⟨hfirst, fun f _ => f.mended.isLine⟩
  · rw [forall₂_map_right_iff, forall₂_same]
    exact fun f _ => passes_mended f

/-! ## First lines of responses -/

theorem printed_of_reasonText {reason : String} {text : Bytes} (h : ReasonText reason text) :
    ∀ b ∈ Utf8.encode reason, Http.Head.isValueByte b = true := by
  have hempty : Utf8.encode "" = [] := rfl
  cases h with
  | absent h =>
      rw [hempty]
      exact nofun
  | shown h hprinted hascii =>
      rw [Utf8.encode_decodeLossy_eq_iff.mpr (Utf8.wellFormed_of_ascii hascii)]
      exact hprinted
  | hidden h hprinted hb hhigh =>
      rw [hempty]
      exact nofun

theorem printed_toString (n : ℕ) :
    ∀ b ∈ Utf8.encode (toString n), Http.Head.isValueByte b = true := by
  intro b hb
  obtain ⟨c, hc, hb⟩ := mem_flatMap.mp hb
  rw [Nat.toString_eq_repr, Nat.repr_eq_ofList_toDigits, String.toList_ofList] at hc
  have hrange := toNat_of_isDigit ((isDecimal_toDigits n).digits c hc)
  have hall : ∀ n ≤ 57, 48 ≤ n → Http.Head.isValueByte (UInt8.ofNat n) = true := by decide
  rw [Utf8.utf8EncodeChar_of_ascii (by omega), mem_singleton] at hb
  rw [hb]
  exact hall c.toNat hrange.2 hrange.1

theorem isLine_status (w : WireResponse) {text : Bytes} (h : ReasonText w.reason text) :
    Bytes.IsLine (Utf8.encode (Http.versionText w.minor ++ " " ++ toString w.status.toNat ++ " " ++
      w.reason)) :=
  isLine_words (encode_versionText w.known).2 (printed_toString w.status.toNat)
    (printed_of_reasonText h)

/-! ## Response heads that are sent -/

/-- A reason is written as it is read. -/
theorem reasonText_encode {reason : String} {text : Bytes} (h : ReasonText reason text) :
    ReasonText reason (32 :: (Utf8.encode reason ++ Bytes.crlf)) := by
  have hempty : Utf8.encode "" = [] := rfl
  have hascii : ∀ b ∈ Utf8.encode reason, b < 0x80 := by
    cases h with
    | absent | hidden =>
        rw [hempty]
        exact fun b hb => (not_mem_nil hb).elim
    | shown h hprinted hascii =>
        rw [Utf8.encode_decodeLossy_eq_iff.mpr (Utf8.wellFormed_of_ascii hascii)]
        exact hascii
  have hshown : ReasonText (Utf8.decodeLossy (Utf8.encode reason)) _ :=
    .shown .crlf (printed_of_reasonText h) hascii
  rwa [Utf8.decodeLossy_encode] at hshown

/-- A number of three digits is written as a status code is. -/
theorem encode_toString_eq_codeText {status : UInt16} (hlow : 100 ≤ status.toNat)
    (hhigh : status.toNat < 1000) :
    Utf8.encode (toString status.toNat) = Http.Head.codeText status := by
  have hdigit : ∀ d < 10, String.utf8EncodeChar (Nat.digitChar d) = [UInt8.ofNat (48 + d)] := by
    decide
  have hdigits : Nat.toDigits 10 status.toNat = [Nat.digitChar (status.toNat / 100),
      Nat.digitChar (status.toNat / 10 % 10), Nat.digitChar (status.toNat % 10)] := by
    have hdiv : status.toNat / 10 / 10 = status.toNat / 100 := Nat.div_div_eq_div_mul ..
    rw [Nat.toDigits_eq_if (by decide), if_neg (by omega), Nat.toDigits_eq_if (by decide),
      if_neg (by omega), Nat.toDigits_eq_if (by decide), hdiv, if_pos (by omega)]
    rfl
  rw [Nat.toString_eq_repr, Nat.repr_eq_ofList_toDigits, hdigits, Utf8.encode, String.toList_ofList]
  simp only [Utf8.encodeChars_cons, hdigit (status.toNat / 100) (by omega),
    hdigit (status.toNat / 10 % 10) (by omega), hdigit (status.toNat % 10) (by omega)]
  rfl

/-- What is sent back for a response head ends where its first blank line does. Read again, it is
the version, the status and the reason that were read, and the fields that are sent on, unless the
status is less than 100: that is written with fewer digits than a status has. -/
theorem responseHead_reread {raw rest : Bytes} {head : Http.ResponseHead}
    (hread : Http.Head.response fieldLimit raw = .ok (head, rest)) :
    Bytes.EndsAtFirst Bytes.headEnd (responseHeadBytes head) ∧
      (100 ≤ head.status.toNat →
        Http.Head.response (fieldLimit + 1) (responseHeadBytes head) =
          .ok ({ head with headers := forwardedFields head.headers }, [])) := by
  obtain ⟨w, text, ⟨-, reason, -, -, hreason, -⟩, hroom, -, rfl⟩ :=
    Http.Head.response_eq_ok_iff.mp hread
  have hbytes : responseHeadBytes w.read = Bytes.ofLines
      (headLines (Http.versionText w.minor ++ " " ++ toString w.status.toNat ++ " " ++ w.reason)
        (w.fields.map WireField.read)) :=
    encode_head _ (w.fields.map WireField.read)
  rw [headLines_read] at hbytes
  refine ⟨?_, fun hstatus => ?_⟩
  · rw [hbytes]
    refine Bytes.endsAtFirst_ofLines (cons_ne_nil _ _) ?_
    rw [forall_mem_cons, forall_mem_map]
    exact ⟨isLine_status w hreason, fun f _ => f.isLine⟩
  · let sent : WireResponse := { w with fields := sentFields w.fields }
    have htext : ResponseText sent (responseHeadBytes w.read) := by
      refine ⟨[], _, _, .nil, reasonText_encode hreason,
        Http.Head.fieldBlock_lines (sentFields w.fields), ?_⟩
      have hcode : Utf8.encode (toString w.status.toNat) = Http.Head.codeText w.status :=
        encode_toString_eq_codeText hstatus w.short
      rw [hbytes, Bytes.ofLines_cons, encode_words, (encode_versionText w.known).1, hcode]
      simp only [sent, nil_append, append_assoc, cons_append]
    have hsame : sent.read = { w.read with headers := forwardedFields w.read.headers } := by
      simp only [sent, WireResponse.read, map_read_sentFields]
    refine Http.Head.response_eq_ok_iff.mpr ⟨sent, _, htext, ?_, (append_nil _).symm, hsame.symm⟩
    exact (length_sentFields_le w.fields).trans (Nat.succ_le_succ hroom)

/-! ## Both directions -/

/-- The fields of every accepted request are sent on to the server, and those of every response
whose head is read to the client. -/
theorem field_values_mended :
    (∀ raw head rest request, Http.Head.request fieldLimit raw = .ok (head, rest) →
      Request.ofHead head = .ok request →
        ∃ w text, RequestText w text ∧ raw = text ++ rest ∧ head = w.read ∧
          PassesAll w.fields request.headBytes) ∧
      ∀ raw head rest, Http.Head.response fieldLimit raw = .ok (head, rest) →
        ∃ w text, ResponseText w text ∧ raw = text ++ rest ∧ head = w.read ∧
          PassesAll w.fields (responseHeadBytes head) := by
  constructor
  · intro raw head rest request hread h
    obtain ⟨w, text, htext, -, hraw, rfl⟩ := Http.Head.request_eq_ok_iff.mp hread
    have hrequest := Request.of_ofHead h
    have hheaders : request.headers = w.fields.map WireField.read := hrequest.headers
    refine ⟨w, text, htext, hraw, rfl, ?_⟩
    rw [Request.headBytes, hheaders]
    exact passesAll_head (isLine_first hrequest) w.fields
  · intro raw head rest hread
    obtain ⟨w, text, htext, -, hraw, rfl⟩ := Http.Head.response_eq_ok_iff.mp hread
    obtain ⟨-, reason, -, -, hreason, -⟩ := id htext
    exact ⟨w, text, htext, hraw, rfl, passesAll_head (isLine_status w hreason) w.fields⟩

/-- A response head with a value in UTF-8, one that breaks off within a character, and a repeated
name. -/
def brokenHeadBytes : Bytes :=
  Bytes.ofAscii "HTTP/1.1 200 OK\r\nx: " ++ [0xC3, 0xA9] ++ Bytes.ofAscii "\r\nX: a" ++
    [0xE2, 0x82] ++ Bytes.ofAscii "b\r\n\r\n"

def brokenHead : Http.ResponseHead := ⟨1, 200, "OK", [("x", "é"), ("X", "a\uFFFDb")]⟩

theorem field_values_mended_loose :
    (∃ request, Request.ofHead looseHead = .ok request ∧
      ∃ w text, RequestText w text ∧ looseHeadBytes = text ++ [] ∧ looseHead = w.read ∧
        PassesAll w.fields request.headBytes) ∧
    ∃ w text, ResponseText w text ∧ brokenHeadBytes = text ++ [] ∧ brokenHead = w.read ∧
      PassesAll w.fields (responseHeadBytes brokenHead) := by
  have hresponse : Http.Head.response fieldLimit brokenHeadBytes = .ok (brokenHead, []) := by
    decide +kernel
  exact ⟨⟨_, ofHead_looseHead,
      field_values_mended.1 _ _ _ _ request_looseHeadBytes ofHead_looseHead⟩,
    field_values_mended.2 _ _ _ hresponse⟩

/-- A field whose value is one letter in Latin-1. -/
def latinField : WireField where
  name := [88]
  value := [0xE9]
  token := by decide
  printed := all_eq_true.mp (by decide)
  bare := by decide

def latinRequest : WireRequest where
  method := Bytes.ofAscii "GET"
  target := "http://page/"
  minor := 1
  fields := [latinField]
  token := by decide
  aimed := by decide
  visible := all_eq_true.mp rfl
  known := by decide

def latinBytes : Bytes :=
  Bytes.ofAscii "GET http://page/ HTTP/1.1\r\nX: " ++ 0xE9 :: Bytes.ofAscii "\r\n\r\n"

/-- A value that is no UTF-8 is not sent on as it is. -/
theorem latin_value_replaced :
    RequestText latinRequest latinBytes ∧
      Http.Head.request fieldLimit latinBytes = .ok (latinRequest.read, []) ∧
      isHopByHop latinField.read.1 = false ∧
      ∃ request, Request.ofHead latinRequest.read = .ok request ∧
        request.headBytes = Bytes.ofAscii "GET / HTTP/1.1\r\nX: " ++ [0xEF, 0xBF, 0xBD] ++
          Bytes.ofAscii "\r\nConnection: close\r\n\r\n" := by
  have htext : RequestText latinRequest latinBytes :=
    ⟨[], Bytes.crlf, _, .nil, .crlf, Http.Head.fieldBlock_lines [latinField], by decide +kernel⟩
  refine ⟨htext, ?_, by decide +kernel, ?_⟩
  · exact Http.Head.request_eq_ok_iff.mpr ⟨latinRequest, latinBytes, htext, by decide, by simp, rfl⟩
  · exact ⟨⟨.get, ⟨.http, "page", 80, "/"⟩, "HTTP/1.1", latinRequest.read.headers, .empty⟩,
      by decide +kernel, by decide +kernel⟩

end TrafficCapture.Proxy
