import TrafficCapture.Control.Parameters
import TrafficCapture.Har.Entry
import TrafficCapture.Proofs.Form.Pairs

/-! # Encoded queries

A query that encodes pairs is read as those pairs, whichever of its encodings was chosen: by
itself, as the parameters of a control request, and behind the question mark of a URL. -/

namespace TrafficCapture.Form

open List

/-! ## Encodings -/

/-- What encodes a pair. The name has no equals sign in it, so that the first one ends it. -/
inductive EncodesPair (reserved : List Char) : String × String → List Char → Prop
  | mk {name value : String} {front back : List Char}
      (hname : Encodes ('=' :: '&' :: '%' :: '+' :: reserved) name.toList front)
      (hvalue : Encodes ('&' :: '%' :: '+' :: reserved) value.toList back) :
      EncodesPair reserved (name, value) (front ++ '=' :: back)

/-- What encodes pairs: they are joined by ampersands, of which there may be more than one between
two pairs, and any number at both ends. -/
inductive EncodesQuery (reserved : List Char) : List (String × String) → List Char → Prop
  | nil : EncodesQuery reserved [] []
  | mark {ps : List (String × String)} {text : List Char} (more : EncodesQuery reserved ps text) :
      EncodesQuery reserved ps ('&' :: text)
  | last {p : String × String} {text : List Char} (h : EncodesPair reserved p text) :
      EncodesQuery reserved [p] text
  | cons {p : String × String} {ps : List (String × String)} {front text : List Char}
      (h : EncodesPair reserved p front) (more : EncodesQuery reserved ps text) :
      EncodesQuery reserved (p :: ps) (front ++ '&' :: text)

/-- What the first pair of a name says. -/
def First (ps : List (String × String)) (name : String) : Option String → Prop
  | some value =>
    ∃ before after, ps = before ++ (name, value) :: after ∧ ∀ p ∈ before, p.1 ≠ name
  | none => ∀ p ∈ ps, p.1 ≠ name

/-! ## Reading -/

section

variable {reserved text : List Char} {p : String × String} {ps : List (String × String)}

theorem pair_of_encodesPair (h : EncodesPair reserved p text) : pair text = p := by
  obtain ⟨hname, hvalue⟩ := h
  have hequals : '=' ∉ _ := notMem_of_encodes rfl (by decide) (by decide) (by simp) hname
  rw [pair_append hequals, decode_of_encodes (by simp) (by simp) hname,
    decode_of_encodes (by simp) (by simp) hvalue, String.ofList_toList, String.ofList_toList]

theorem notMem_of_encodesPair {mark : Char} (hmark : mark.isAlphanum = false)
    (hpercent : mark ≠ '%') (hplus : mark ≠ '+') (hequals : mark ≠ '=')
    (hreserved : mark ∈ '&' :: reserved) (h : EncodesPair reserved p text) : mark ∉ text := by
  obtain ⟨hname, hvalue⟩ := h
  have hmem := mem_cons.mp hreserved
  have hfront := notMem_of_encodes hmark hpercent hplus (by simp only [mem_cons]; tauto) hname
  have hback := notMem_of_encodes hmark hpercent hplus (by simp only [mem_cons]; tauto) hvalue
  simp [hfront, hback, hequals]

theorem pairs_of_encodesPair (h : EncodesPair reserved p text) : pairs text = [p] := by
  have hmark : '&' ∉ text :=
    notMem_of_encodesPair rfl (by decide) (by decide) (by decide) mem_cons_self h
  have hne : text ≠ [] := by
    obtain ⟨hname, hvalue⟩ := h
    simp
  rw [pairs_of_notMem hmark hne, pair_of_encodesPair h]

/-- Any encoding of pairs is read as those pairs. -/
theorem pairs_of_encodesQuery (h : EncodesQuery reserved ps text) : pairs text = ps := by
  induction h with
  | nil => rfl
  | mark more ih => rw [← nil_append ('&' :: _), pairs_append, ih]; rfl
  | last h => exact pairs_of_encodesPair h
  | cons h more ih => rw [pairs_append, pairs_of_encodesPair h, ih, singleton_append]

theorem notMem_of_encodesQuery {mark : Char} (hmark : mark.isAlphanum = false)
    (hpercent : mark ≠ '%') (hplus : mark ≠ '+') (hequals : mark ≠ '=') (hamp : mark ≠ '&')
    (hreserved : mark ∈ reserved) (h : EncodesQuery reserved ps text) : mark ∉ text := by
  have hpair : ∀ {p text}, EncodesPair reserved p text → mark ∉ text :=
    notMem_of_encodesPair hmark hpercent hplus hequals (mem_cons_of_mem _ hreserved)
  induction h with
  | nil => exact not_mem_nil
  | mark more ih => simp [hamp, ih]
  | last h => exact hpair h
  | cons h more ih => simp [hpair h, hamp, ih]

end

/-- The pairs of a URL are those of its query, if neither what is in front of it nor the query
itself has a number sign. -/
theorem pairsOfUrl_append {front query behind : List Char} (hquestion : '?' ∉ front)
    (hfront : '#' ∉ front) (hquery : '#' ∉ query) (hbehind : ∀ c ∈ behind.head?, c = '#') :
    pairsOfUrl (String.ofList (front ++ '?' :: query ++ behind)) = pairs query := by
  have hwhole : '#' ∉ front ++ '?' :: query := by simp [hfront, hquery]
  have hcut : (Text.cutAt '#' (front ++ '?' :: query ++ behind)).1 = front ++ '?' :: query := by
    cases behind with
    | nil => rw [append_nil, Text.cutAt_of_notMem hwhole]
    | cons c fragment => rw [hbehind c rfl, Text.cutAt_append hwhole]
  rw [pairsOfUrl, String.toList_ofList, hcut, Text.cutAt_append hquestion]

/-- What is looked up by a name is what its first pair says. -/
theorem first_get? (p : Control.Parameters) (name : String) : First p.pairs name (p.get? name) := by
  rw [Control.Parameters.get?]
  cases hfind : p.pairs.find? (·.1 == name) with
  | none => simpa [First] using hfind
  | some found =>
      obtain ⟨hname, before, after, hpairs, hbefore⟩ := find?_eq_some_iff_append.mp hfind
      have hfound : (name, found.2) = found := Prod.ext (eq_of_beq hname).symm rfl
      refine ⟨before, after, ?_, fun q hq => by simpa using hbefore q hq⟩
      rw [hfound, hpairs]

/-- Decoding is the inverse of every encoding. A query is read as the pairs that it encodes, in
their order, and a parameter is what the first pair of its name says. If number signs are escaped,
then the same holds for the query of a URL, whatever fragment it has. -/
theorem encoded_pairs_read (ps : List (String × String)) (text : List Char) :
    (EncodesQuery [] ps text →
      pairs text = ps ∧
        ∀ name, First ps name
          ((Control.Parameters.ofQuery (some (String.ofList text))).get? name)) ∧
    (EncodesQuery ['#'] ps text →
      ∀ (e : Exchange) (front behind : List Char), '?' ∉ front → '#' ∉ front →
        (∀ c ∈ behind.head?, c = '#') →
        e.url = String.ofList (front ++ '?' :: text ++ behind) →
        (Har.Request.ofExchange e).query = Har.nameValues ps) := by
  constructor
  · intro h
    have hpairs := pairs_of_encodesQuery h
    refine ⟨hpairs, fun name => ?_⟩
    have hfirst := first_get? (Control.Parameters.ofQuery (some (String.ofList text))) name
    have hquery : (Control.Parameters.ofQuery (some (String.ofList text))).pairs = ps := by
      rw [Control.Parameters.ofQuery, Option.map_some, Option.getD_some, String.toList_ofList,
        hpairs]
    rwa [hquery] at hfirst
  · intro h e front behind hquestion hfront hbehind hurl
    have htext : '#' ∉ text := notMem_of_encodesQuery rfl (by decide) (by decide) (by decide)
      (by decide) mem_cons_self h
    rw [Har.Request.ofExchange, hurl, pairsOfUrl_append hquestion hfront htext hbehind,
      pairs_of_encodesQuery h]

/-- An encoding with an escape of two bytes, a plus sign, a bare equals sign in a value, and
ampersands in excess. -/
theorem encodesQuery_mixed {reserved : List Char} (h : ∀ c ∈ reserved, c = '#') :
    EncodesQuery reserved [("né m", "a=1"), ("", "")] "&n%c3%A9+m=a=1&&=".toList := by
  have hvalue : ∀ c, c ∉ ['&', '%', '+', '#'] → c ∉ '&' :: '%' :: '+' :: reserved := by
    intro c hc hmem
    have hreserved := h c
    simp only [mem_cons, not_mem_nil, or_false, not_or] at hc hmem
    tauto
  have hname : ∀ c, c ≠ '=' → c ∉ ['&', '%', '+', '#'] →
      c ∉ '=' :: '&' :: '%' :: '+' :: reserved := by
    intro c hequals hc hmem
    exact (mem_cons.mp hmem).elim hequals (hvalue c hc)
  have hbytes : String.utf8EncodeChar 'é' = [0xC3, 0xA9] := by decide
  have hescape : Escapes (String.utf8EncodeChar 'é') "%c3%A9".toList := by
    rw [hbytes]
    exact .cons (.inl rfl) (.inl rfl) (.cons (.inr rfl) (.inr rfl) .nil)
  have hfront : Encodes ('=' :: '&' :: '%' :: '+' :: reserved) "né m".toList "n%c3%A9+m".toList :=
    .bare (hname 'n' (by decide) (by decide)) (.escaped hescape
      (.plus (.bare (hname 'm' (by decide) (by decide)) .nil)))
  have hback : Encodes ('&' :: '%' :: '+' :: reserved) "a=1".toList "a=1".toList :=
    .bare (hvalue 'a' (by decide)) (.bare (hvalue '=' (by decide))
      (.bare (hvalue '1' (by decide)) .nil))
  exact .mark (.cons (.mk hfront hback) (.mark (.last (@EncodesPair.mk _ "" "" [] [] .nil .nil))))

/-- The pairs of the encoding above, as they are read in all three places. -/
theorem mixed_pairs_read :
    pairs "&n%c3%A9+m=a=1&&=".toList = [("né m", "a=1"), ("", "")] ∧
    First [("né m", "a=1"), ("", "")] "né m"
      ((Control.Parameters.ofQuery (some "&n%c3%A9+m=a=1&&=")).get? "né m") ∧
    (Har.Request.ofExchange { url := "http://h/?&n%c3%A9+m=a=1&&=#b?c" }).query =
      [⟨"né m", "a=1"⟩, ⟨"", ""⟩] := by
  obtain ⟨hquery, hurl⟩ :=
    encoded_pairs_read [("né m", "a=1"), ("", "")] "&n%c3%A9+m=a=1&&=".toList
  obtain ⟨hpairs, hfirst⟩ := hquery (encodesQuery_mixed (by simp))
  refine ⟨hpairs, hfirst "né m", ?_⟩
  exact hurl (encodesQuery_mixed (by simp)) { url := "http://h/?&n%c3%A9+m=a=1&&=#b?c" }
    "http://h/".toList "#b?c".toList (by decide) (by decide) (by simp) (by simp)

end TrafficCapture.Form
