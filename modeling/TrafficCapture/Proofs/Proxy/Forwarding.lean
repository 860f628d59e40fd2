import TrafficCapture.Proofs.Bytes.FirstMark
import TrafficCapture.Proofs.Http.Head
import TrafficCapture.Proofs.Proxy.Destination
import TrafficCapture.Proofs.Proxy.Recipient
import TrafficCapture.Proofs.Text.Mending

/-! # Forwarded heads

The head that is sent on for an accepted request is one head again, and is read as what was written:
nothing that a client puts into its target or its fields adds, splits or joins lines. -/

namespace TrafficCapture

open List Text

/-! ## Fields that are sent on -/

namespace Http.Head

/-- A token is read as the text that it encodes. -/
theorem encode_decodeLossy_token {token : Bytes} (h : isToken token = true) :
    Utf8.encode (Utf8.decodeLossy token) = token :=
  Utf8.encode_decodeLossy_eq_iff.mpr
    (Utf8.wellFormed_of_ascii fun b hb => isTokenByte_lt ((isToken_iff.mp h).2 b hb))

theorem mended_bytes {b : UInt8} (h : b ∈ String.utf8EncodeChar Utf8.replacement) :
    isValueByte b = true ∧ isPadding b = false := by
  have hbytes : String.utf8EncodeChar Utf8.replacement = [0xEF, 0xBF, 0xBD] := rfl
  rw [hbytes] at h
  simp only [mem_cons, not_mem_nil, or_false] at h
  rcases h with rfl | rfl | rfl <;> decide

theorem Bare.mended {value mended : Bytes} (hbare : Bare value) (h : Utf8.Mended value mended) :
    Bare mended where
  front := fun b hb => (h.mem_head? hb).elim (hbare.front b) fun hb => (mended_bytes hb).2
  back := fun b hb => (h.mem_getLast? hb).elim (hbare.back b) fun hb => (mended_bytes hb).2

/-- The field with its value mended, which is what is sent on of it. -/
def WireField.mended (f : WireField) : WireField :=
  have hmended : Utf8.Mended f.value (Utf8.encode (Utf8.decodeLossy f.value)) :=
    Utf8.mended_iff.mpr rfl
  { f with
    value := Utf8.encode (Utf8.decodeLossy f.value)
    printed := fun b hb => (hmended.mem hb).elim (f.printed b) fun hb => (mended_bytes hb).1
    bare := f.bare.mended hmended }

/-- A mended field is read as the same. -/
theorem WireField.read_mended (f : WireField) : f.mended.read = f.read := by
  simp only [WireField.read, WireField.mended, Utf8.decodeLossy_encode]

/-- The line that is written for a field, without its end. -/
def WireField.line (f : WireField) : Bytes := f.name ++ 58 :: 32 :: f.value

theorem WireField.fieldLine (f : WireField) : FieldLine f (f.line ++ Bytes.crlf) := by
  refine ⟨[32], [], Bytes.crlf, all_eq_true.mp (by decide), nofun, .crlf, ?_⟩
  simp only [WireField.line, append_assoc, cons_append, nil_append]

/-- Bytes that a value may hold stand on one line. -/
theorem isLine_of_printed {line : Bytes} (hne : line ≠ [])
    (h : ∀ b ∈ line, isValueByte b = true) : Bytes.IsLine line where
  ne_nil := hne
  cr := fun hmem => absurd (h 13 hmem) (by decide)
  lf := fun hmem => absurd (h 10 hmem) (by decide)

theorem WireField.isLine (f : WireField) : Bytes.IsLine f.line := by
  refine isLine_of_printed (by simp [WireField.line]) ?_
  simp only [WireField.line, forall_mem_append, forall_mem_cons]
  exact ⟨fun b hb => isValueByte_of_isTokenByte ((isToken_iff.mp f.token).2 b hb), by decide,
    by decide, f.printed⟩

theorem fieldBlock_lines (fs : List WireField) :
    FieldBlock fs (Bytes.ofLines (fs.map WireField.line)) := by
  induction fs with
  | nil => exact .nil .crlf
  | cons f fs ih =>
      rw [map_cons, Bytes.ofLines_cons, ← append_assoc]
      exact .cons f.fieldLine ih

end Http.Head

namespace Proxy

open Http.Head (WireField WireRequest)

/-- The field that tells a server not to keep the connection. -/
def closeField : WireField where
  name := Bytes.ofAscii "Connection"
  value := Bytes.ofAscii "close"
  token := by decide
  printed := all_eq_true.mp (by decide)
  bare := by decide

/-- The fields that are sent on of those that came. -/
def sentFields (fs : List WireField) : List WireField :=
  (fs.filter fun f => !isHopByHop f.read.1).map WireField.mended ++ [closeField]

theorem map_read_sentFields (fs : List WireField) :
    (sentFields fs).map WireField.read = forwardedFields (fs.map WireField.read) := by
  have hclose : closeField.read = ("Connection", "close") :=
    Prod.ext (Utf8.decodeLossy_encode "Connection") (Utf8.decodeLossy_encode "close")
  rw [sentFields, forwardedFields, map_append, map_map, filter_map, map_singleton, hclose]
  congr 1
  exact map_congr_left fun f _ => f.read_mended

/-! ## Lines that are sent -/

/-- The lines of a head that is sent: its first one, and one for each field. -/
def headLines (first : String) (headers : Http.Headers) : List Bytes :=
  Utf8.encode first ::
    (forwardedFields headers).map fun field => Utf8.encode (field.1 ++ ": " ++ field.2)

theorem encode_head (first : String) (headers : Http.Headers) :
    Utf8.encode (first ++ "\r\n" ++ fieldLines headers) =
      Bytes.ofLines (headLines first headers) := by
  have hend : Utf8.encode "\r\n" = Bytes.crlf := rfl
  simp only [fieldLines_eq, headLines, Bytes.ofLines, Utf8.encode_append, Utf8.encode_join, hend,
    flatMap_cons, flatMap_map, append_assoc]

/-- A well-formed value is written as it is. -/
theorem encode_read {f : WireField} (h : Utf8.WellFormed f.value) :
    Utf8.encode (f.read.1 ++ ": " ++ f.read.2) = f.line := by
  have hcolon : Utf8.encode ": " = [58, 32] := rfl
  rw [Utf8.encode_append, Utf8.encode_append, hcolon, WireField.read,
    Http.Head.encode_decodeLossy_token f.token, Utf8.encode_decodeLossy_eq_iff.mpr h, append_assoc]
  rfl

theorem wellFormed_sentFields (fs : List WireField) :
    ∀ f ∈ sentFields fs, Utf8.WellFormed f.value := by
  intro f hf
  rw [sentFields, mem_append, mem_map, mem_singleton] at hf
  rcases hf with ⟨f, -, rfl⟩ | rfl
  · exact ⟨Utf8.decodeLossy f.value, rfl⟩
  · exact ⟨"close", rfl⟩

/-- The lines that are sent are those of the fields that are sent on. -/
theorem headLines_read (first : String) (fs : List WireField) :
    headLines first (fs.map WireField.read) =
      Utf8.encode first :: (sentFields fs).map WireField.line := by
  rw [headLines, ← map_read_sentFields, map_map]
  congr 1
  apply map_congr_left
  intro f hf
  exact encode_read (wellFormed_sentFields fs f hf)

/-! ## Requests that are sent -/

/-- A path is taken from the target, except for a slash. -/
theorem path_of_resolve? {target : String} {headers : Http.Headers} {d : Destination}
    (h : Destination.resolve? target headers = some d) :
    (d.path = target ∨ ∃ rest, d.path.toList = '/' :: rest) ∧
      ∀ c ∈ d.path.toList, c = '/' ∨ c ∈ target.toList := by
  have hauthority {scheme : Scheme} {front rest : List Char} (htarget : target.toList = front ++ rest)
      (h : Destination.ofAuthority? scheme rest = some d) :
      (d.path = target ∨ ∃ rest, d.path.toList = '/' :: rest) ∧
        ∀ c ∈ d.path.toList, c = '/' ∨ c ∈ target.toList := by
    refine ⟨.inr (Destination.of_ofAuthority? h).2.2, fun c hc => ?_⟩
    rw [htarget]
    exact (Destination.path_of_ofAuthority? h c hc).imp_right (mem_append_right front)
  unfold Destination.resolve? at h
  split at h
  · rename_i hdrop
    exact hauthority (append_of_dropFront? hdrop) h
  split at h
  · rename_i hdrop
    exact hauthority (append_of_dropFront? hdrop) h
  · obtain ⟨host, -, rfl⟩ := Option.map_eq_some_iff.mp h
    exact ⟨.inl rfl, fun c hc => .inr hc⟩

/-- The token of a method is one that a request head may begin with. -/
theorem isToken_token (m : Http.Method) : Http.isToken (Utf8.encode m.token) = true := by
  cases m <;> decide

theorem encode_versionText {minor : ℕ} (h : minor ≤ 1) :
    Utf8.encode (Http.versionText minor) = Bytes.ofAscii (Http.versionText minor) ∧
      ∀ b ∈ Utf8.encode (Http.versionText minor), Http.Head.isValueByte b = true := by
  rw [← all_eq_true]
  obtain rfl | rfl := Nat.le_one_iff_eq_zero_or_eq_one.mp h
  · exact ⟨rfl, rfl⟩
  · exact ⟨rfl, rfl⟩

theorem encode_words (front middle back : String) :
    Utf8.encode (front ++ " " ++ middle ++ " " ++ back) =
      Utf8.encode front ++ 32 :: (Utf8.encode middle ++ 32 :: Utf8.encode back) := by
  have hspace : Utf8.encode " " = [32] := rfl
  simp only [Utf8.encode_append, hspace, append_assoc, cons_append, nil_append]

/-- Three printed words stand on one line. -/
theorem isLine_words {front middle back : String}
    (hfront : ∀ b ∈ Utf8.encode front, Http.Head.isValueByte b = true)
    (hmiddle : ∀ b ∈ Utf8.encode middle, Http.Head.isValueByte b = true)
    (hback : ∀ b ∈ Utf8.encode back, Http.Head.isValueByte b = true) :
    Bytes.IsLine (Utf8.encode (front ++ " " ++ middle ++ " " ++ back)) := by
  rw [encode_words]
  refine Http.Head.isLine_of_printed (by simp) ?_
  simp only [forall_mem_append, forall_mem_cons]
  exact ⟨hfront, by decide, hmiddle, by decide, hback⟩

section

variable {w : WireRequest} {request : Request}

theorem aimed_of_ofHead (h : request.OfHead w.read) :
    Utf8.encode request.destination.path ≠ [] := by
  rcases (path_of_resolve? h.destination).1 with hpath | ⟨rest, hpath⟩
  · rw [hpath]
    exact w.aimed
  · rw [Utf8.encode, hpath, Utf8.encodeChars_cons, Utf8.utf8EncodeChar_of_ascii (by decide)]
    exact cons_ne_nil _ _

theorem visible_of_ofHead (h : request.OfHead w.read) :
    ∀ b ∈ Utf8.encode request.destination.path, Http.Head.isTargetByte b = true := by
  intro b hb
  obtain ⟨c, hc, hb⟩ := mem_flatMap.mp hb
  rcases (path_of_resolve? h.destination).2 c hc with rfl | hc
  · rw [Utf8.utf8EncodeChar_of_ascii (by decide), mem_singleton] at hb
    rw [hb]
    decide
  · exact w.visible b (mem_flatMap.mpr ⟨c, hc, hb⟩)

/-- The request that is sent on for one that came. -/
def sentRequest (h : request.OfHead w.read) : WireRequest where
  method := Utf8.encode request.method.token
  target := request.destination.path
  minor := w.minor
  fields := sentFields w.fields
  token := isToken_token request.method
  aimed := aimed_of_ofHead h
  visible := visible_of_ofHead h
  known := w.known

theorem read_sentRequest (h : request.OfHead w.read) :
    (sentRequest h).read = ⟨request.method.token, request.destination.path, w.minor,
      forwardedFields request.headers⟩ := by
  rw [WireRequest.read, sentRequest, Utf8.decodeLossy_encode, map_read_sentFields, h.headers]
  rfl

theorem isLine_first (h : request.OfHead w.read) :
    Bytes.IsLine (Utf8.encode (request.method.token ++ " " ++ request.destination.path ++ " " ++
      request.version)) := by
  apply isLine_words
  · have htoken := Http.Head.isToken_iff.mp (isToken_token request.method)
    exact fun b hb => Http.Head.isValueByte_of_isTokenByte (htoken.2 b hb)
  · exact fun b hb => Http.Head.isValueByte_of_isTargetByte (visible_of_ofHead h b hb)
  · rw [h.version]
    exact (encode_versionText w.known).2

/-- What is written is the text of the request that is sent on. -/
theorem requestText_sentRequest (h : request.OfHead w.read) :
    Http.Head.RequestText (sentRequest h) request.headBytes := by
  refine ⟨[], Bytes.crlf, Bytes.ofLines ((sentFields w.fields).map WireField.line), .nil, .crlf,
    Http.Head.fieldBlock_lines _, ?_⟩
  have hheaders : request.headers = w.fields.map WireField.read := h.headers
  have hversion : request.version = Http.versionText w.minor := h.version
  rw [Request.headBytes, encode_head, hheaders, headLines_read, Bytes.ofLines_cons, encode_words,
    hversion, (encode_versionText w.known).1]
  simp only [sentRequest, nil_append, append_assoc, cons_append]

theorem length_sentFields_le (fs : List WireField) : (sentFields fs).length ≤ fs.length + 1 := by
  rw [sentFields, length_append, length_map, length_singleton]
  exact Nat.succ_le_succ (length_filter_le _ _)

end

/-- The head that is sent for an accepted request is one head, and no more: it is made of a first
line and a line for each field, none of which contains a line end or is empty, so that the first
blank line ends it. Read again, it is the method, the path and the version that were written and
the fields that are sent on, in order. -/
theorem head_reread {raw rest : Bytes} {head : Http.RequestHead} {request : Request}
    (hread : Http.Head.request fieldLimit raw = .ok (head, rest))
    (h : Request.ofHead head = .ok request) :
    let lines := headLines (request.method.token ++ " " ++ request.destination.path ++ " " ++
      request.version) request.headers
    Bytes.EndsAtFirst Bytes.headEnd request.headBytes ∧
      request.headBytes = Bytes.ofLines lines ∧
      (∀ line ∈ lines, Bytes.IsLine line) ∧
      request.version = Http.versionText head.minor ∧
      Http.Head.request (fieldLimit + 1) request.headBytes =
        .ok (⟨request.method.token, request.destination.path, head.minor,
          forwardedFields request.headers⟩, []) := by
  intro lines
  obtain ⟨w, text, -, hroom, -, rfl⟩ := Http.Head.request_eq_ok_iff.mp hread
  have hrequest := Request.of_ofHead h
  have hheaders : request.headers = w.fields.map WireField.read := hrequest.headers
  have hbytes : request.headBytes = Bytes.ofLines lines := encode_head _ request.headers
  have hlines : ∀ line ∈ lines, Bytes.IsLine line := by
    simp only [lines, hheaders, headLines_read, forall_mem_cons, forall_mem_map]
    exact ⟨isLine_first hrequest, fun f _ => f.isLine⟩
  refine ⟨?_, hbytes, hlines, hrequest.version, ?_⟩
  · rw [hbytes]
    exact Bytes.endsAtFirst_ofLines (cons_ne_nil _ _) hlines
  · refine Http.Head.request_eq_ok_iff.mpr ⟨sentRequest hrequest, _,
      requestText_sentRequest hrequest, ?_, (append_nil _).symm, (read_sentRequest hrequest).symm⟩
    exact (length_sentFields_le w.fields).trans (Nat.succ_le_succ hroom)

/-- A head with an empty line before it, a query behind the host, blanks around its values, bare
line feeds and a byte that is no UTF-8. -/
def looseHeadBytes : Bytes :=
  Bytes.ofAscii "\r\nget http://page?x HTTP/1.0\nKEEP-alive: 5\nX:\t caf" ++
    0xE9 :: Bytes.ofAscii " \r\nY:\r\n\n"

def looseHead : Http.RequestHead :=
  ⟨"get", "http://page?x", 0, [("KEEP-alive", "5"), ("X", "caf\uFFFD"), ("Y", "")]⟩

theorem request_looseHeadBytes :
    Http.Head.request fieldLimit looseHeadBytes = .ok (looseHead, []) := by
  decide +kernel

theorem ofHead_looseHead :
    Request.ofHead looseHead =
      .ok ⟨.get, ⟨.http, "page", 80, "/?x"⟩, "HTTP/1.0", looseHead.headers, .empty⟩ := by
  rfl

theorem head_reread_loose :
    ∃ request, Request.ofHead looseHead = .ok request ∧
      Bytes.EndsAtFirst Bytes.headEnd request.headBytes ∧
      Http.Head.request (fieldLimit + 1) request.headBytes =
        .ok (⟨"GET", "/?x", 0, [("X", "caf\uFFFD"), ("Y", ""), ("Connection", "close")]⟩, []) := by
  have hfields : forwardedFields looseHead.headers =
      [("X", "caf\uFFFD"), ("Y", ""), ("Connection", "close")] := by rfl
  obtain ⟨hends, -, -, -, hagain⟩ := head_reread request_looseHeadBytes ofHead_looseHead
  refine ⟨_, ofHead_looseHead, hends, ?_⟩
  rw [← hfields]
  exact hagain

end Proxy

end TrafficCapture
