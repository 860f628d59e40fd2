import Mathlib.Algebra.Group.Nat.Defs
import TrafficCapture.Proofs.Json.RoundTrip
import TrafficCapture.Proofs.Text.Base64
import TrafficCapture.Proofs.Text.Utf8

/-! # Bodies in archives

An entry of an archive has the captured bodies of its exchange in it, whatever their bytes are: as
text where they are well-formed UTF-8, and spelled in Base64 elsewhere. -/

namespace TrafficCapture.Har

open List Text

/-! ## Bytes shown as text -/

/-- The bytes that a text stands for: its own, or the ones that it spells if it is said to be in
Base64. A text in any other encoding stands for none. -/
inductive StandsFor (text : String) : Option String → Bytes → Prop
  | plain : StandsFor text none (Utf8.encode text)
  | base64 {bytes : Bytes} (h : Base64.Spells text.toList bytes) :
      StandsFor text (some "base64") bytes

theorem StandsFor.unique {text : String} {encoding : Option String} {bytes bytes' : Bytes}
    (h : StandsFor text encoding bytes) (h' : StandsFor text encoding bytes') : bytes = bytes' := by
  cases h with
  | plain =>
      cases h'
      rfl
  | base64 h =>
      cases h' with
      | base64 h' => exact h.unique h'

/-- A text and its encoding show a body: there is a text if there is a body, it stands for the
bytes of the body alone, and only bytes that are no UTF-8 are encoded. -/
structure Shows (text encoding : Option String) (body : Option Bytes) : Prop where
  absent : text = none ↔ body = none
  bytes : ∀ shown, text = some shown → ∀ b, StandsFor shown encoding b ↔ body = some b
  encoded : ∀ b, body = some b → (encoding = some "base64" ↔ ¬ Utf8.WellFormed b)
  plain : ∀ b, body = some b → (encoding = none ↔ Utf8.WellFormed b)
  bare : body = none → encoding = none

theorem bodyText_encode (text : String) : bodyText (Utf8.encode text) = (text, none) := by
  rw [bodyText, Utf8.decode?_eq_some_iff.mpr rfl]

theorem bodyText_of_not_wellFormed {body : Bytes} (h : ¬ Utf8.WellFormed body) :
    bodyText body = (String.ofList (Base64.encode body), some "base64") := by
  rw [bodyText, Utf8.decode?_eq_none_iff.mpr h]

theorem standsFor_bodyText (body : Bytes) :
    StandsFor (bodyText body).1 (bodyText body).2 body := by
  by_cases h : Utf8.WellFormed body
  · obtain ⟨text, rfl⟩ := h
    rw [bodyText_encode]
    exact .plain
  · rw [bodyText_of_not_wellFormed h]
    apply StandsFor.base64
    rw [String.toList_ofList, Base64.spells_iff]

theorem encoding_bodyText (body : Bytes) :
    ((bodyText body).2 = some "base64" ↔ ¬ Utf8.WellFormed body) ∧
      ((bodyText body).2 = none ↔ Utf8.WellFormed body) := by
  by_cases h : Utf8.WellFormed body
  · obtain ⟨text, rfl⟩ := h
    have htext : Utf8.WellFormed (Utf8.encode text) := ⟨text, rfl⟩
    simp [bodyText_encode, htext]
  · simp [bodyText_of_not_wellFormed h, h]

/-- A body is shown by its text and the encoding of that, and no body is shown by none. -/
theorem shows_bodyText (body : Option Bytes) :
    Shows (body.map fun b => (bodyText b).1) (body.bind fun b => (bodyText b).2) body := by
  cases body with
  | none => exact ⟨by simp, nofun, nofun, nofun, fun _ => rfl⟩
  | some body =>
      refine ⟨by simp, ?_, ?_, ?_, nofun⟩
      · intro shown hshown b
        obtain rfl := Option.some.inj hshown
        constructor
        · intro h
          exact congrArg some ((standsFor_bodyText body).unique h)
        · intro h
          cases h
          exact standsFor_bodyText body
      · intro b h
        cases h
        exact (encoding_bodyText body).1
      · intro b h
        cases h
        exact (encoding_bodyText body).2

/-! ## Entries -/

/-- An entry has the bodies of an exchange in it, and the size of the one that was sent. Sizes are
signed numbers of 64 bits, which the length of every list of bytes in memory fits. -/
structure Recovers (e : Exchange) (entry : Entry) : Prop where
  response : Shows entry.response.content.text entry.response.content.encoding e.responseBody
  request : Shows (entry.request.postData.map PostData.text)
    (entry.request.postData.bind PostData.encoding) e.requestBody
  size : ∀ b, e.requestBody = some b → b.length < 2 ^ 63 →
    entry.request.bodySize.toInt = b.length
  empty : e.requestBody = none → entry.request.bodySize = 0

theorem recovers_ofExchange (e : Exchange) : Recovers e (Entry.ofExchange e) := by
  refine ⟨shows_bodyText e.responseBody, ?_, ?_, ?_⟩
  · have hshows := shows_bodyText e.requestBody
    simp only [Entry.ofExchange, Request.ofExchange, Option.map_map, Option.bind_map]
    exact hshows
  · intro b hbody hlength
    simp only [Entry.ofExchange, Request.ofExchange, hbody, Option.map_some, Option.getD_some]
    exact Int64.toInt_ofNat_of_lt hlength
  · intro hbody
    simp only [Entry.ofExchange, Request.ofExchange, hbody, Option.map_none, Option.getD_none]

/-- The bodies of every exchange are found in its entry, and in what is read back after the entry
was written as JSON. -/
theorem bodies_recovered (e : Exchange) :
    Recovers e (Entry.ofExchange e) ∧
      ∃ entry, Entry.reader.run (Entry.ofExchange e).toJson.render = .ok entry ∧
        Recovers e entry :=
  ⟨recovers_ofExchange e, Entry.ofExchange e, (Entry.reads 0 e).run (by decide),
    recovers_ofExchange e⟩

/-- An exchange whose request body was cut within a character, and whose response had none. -/
def cutExchange : Exchange := { requestBody := some [0x68, 0xC3], responseBody := some [] }

theorem bodies_recovered_cut :
    ∃ entry, Entry.reader.run (Entry.ofExchange cutExchange).toJson.render = .ok entry ∧
      entry.request.postData.bind PostData.encoding = some "base64" ∧
      entry.request.bodySize.toInt = 2 ∧
      entry.response.content.text ≠ none ∧ entry.response.content.encoding = none := by
  obtain ⟨-, entry, hread, h⟩ := bodies_recovered cutExchange
  have hcut : ¬ Utf8.WellFormed [0x68, 0xC3] := Utf8.decode?_eq_none_iff.mp (by decide +kernel)
  have hempty : Utf8.WellFormed [] := ⟨"", rfl⟩
  refine ⟨entry, hread, (h.request.encoded _ rfl).mpr hcut, h.size _ rfl (by decide), ?_,
    (h.response.plain _ rfl).mpr hempty⟩
  intro hnone
  cases h.response.absent.mp hnone

end TrafficCapture.Har
