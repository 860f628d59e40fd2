import TrafficCapture.Json.Lexical
import TrafficCapture.Text.Ascii

/-! Strings of JSON, read from behind the opening quote. Each step leaves no more text than it
found, so reading ends. -/

namespace TrafficCapture.Json

/-- Reads the four digits of a character escape. -/
def readHex4 : List Char → Except Fault (Nat × List Char)
  | a :: b :: c :: d :: rest =>
    match Text.hexDigit? a, Text.hexDigit? b, Text.hexDigit? c, Text.hexDigit? d with
    | some a, some b, some c, some d => .ok (a * 4096 + b * 256 + c * 16 + d, rest)
    | _, _, _, _ => .error .malformed
  | short =>
    .error (if 4 ≤ short.foldl (fun n c => n + c.utf8Size) 0 then .malformed else .truncated)

/-- Reads what follows a backslash and `u`. A character outside the basic plane takes two escapes
in a row, and a lone half of such a pair stands for nothing. -/
def readUnicode (cs : List Char) : Except Fault (Char × List Char) := do
  let (high, rest) ← readHex4 cs
  if high < 0xD800 || 0xDFFF < high then return (Char.ofNat high, rest)
  if 0xDC00 ≤ high then throw .malformed
  let rest ← expect ['\\', 'u'] rest
  let (low, rest) ← readHex4 rest
  if low < 0xDC00 || 0xDFFF < low then throw .malformed
  return (Char.ofNat (0x10000 + (high - 0xD800) * 1024 + (low - 0xDC00)), rest)

/-- The character that a one-letter escape stands for. -/
def shortEscape? : Char → Option Char
  | '"' => some '"'
  | '\\' => some '\\'
  | '/' => some '/'
  | 'b' => some (Char.ofNat 8)
  | 'f' => some (Char.ofNat 12)
  | 'n' => some '\n'
  | 'r' => some '\r'
  | 't' => some '\t'
  | _ => none

/-- Reads what follows a backslash. -/
def readEscape : List Char → Except Fault (Char × List Char)
  | [] => .error .truncated
  | c :: rest =>
    if c == 'u' then readUnicode rest
    else
      match shortEscape? c with
      | some c => .ok (c, rest)
      | none => .error .malformed

theorem readHex4_length {cs rest : List Char} {n : Nat} (h : readHex4 cs = .ok (n, rest)) :
    rest.length ≤ cs.length := by
  unfold readHex4 at h
  split at h
  · split at h
    · cases h
      simp only [List.length_cons]
      omega
    · cases h
  · cases h

theorem readUnicode_length {cs rest : List Char} {c : Char} (h : readUnicode cs = .ok (c, rest)) :
    rest.length ≤ cs.length := by
  unfold readUnicode at h
  cases hh : readHex4 cs with
  | error f => simp [hh, bind, Except.bind] at h
  | ok first =>
      obtain ⟨high, behind⟩ := first
      have hl := readHex4_length hh
      simp only [hh, bind, Except.bind, pure, Except.pure] at h
      split at h
      · simp only [Except.ok.injEq, Prod.mk.injEq] at h
        exact h.2 ▸ hl
      · split at h
        · cases h
        · cases he : expect ['\\', 'u'] behind with
          | error f => simp [he] at h
          | ok behind' =>
              have hl' := expect_length he
              cases hw : readHex4 behind' with
              | error f => simp [he, hw] at h
              | ok second =>
                  obtain ⟨low, rest'⟩ := second
                  have hl'' := readHex4_length hw
                  simp only [he, hw] at h
                  split at h
                  · cases h
                  · simp only [Except.ok.injEq, Prod.mk.injEq] at h
                    exact h.2 ▸ Nat.le_trans hl'' (Nat.le_trans hl' hl)

theorem readEscape_length {cs rest : List Char} {c : Char} (h : readEscape cs = .ok (c, rest)) :
    rest.length ≤ cs.length := by
  cases cs with
  | nil => cases h
  | cons d cs =>
      simp only [readEscape] at h
      split at h
      · exact Nat.le_succ_of_le (readUnicode_length h)
      · split at h
        · cases h; exact Nat.le_succ _
        · cases h

/-- Reads a string behind its opening quote onto the characters read so far, last first. -/
def readTextOnto (done : List Char) : List Char → Except Fault (String × List Char)
  | [] => .error .truncated
  | c :: rest =>
    if c == '"' then .ok (String.ofList done.reverse, rest)
    else if c == '\\' then
      match h : readEscape rest with
      | .error f => .error f
      | .ok (c, rest') =>
        have : rest'.length ≤ rest.length := readEscape_length h
        readTextOnto (c :: done) rest'
    else if c.toNat < 0x20 then .error .malformed
    else readTextOnto (c :: done) rest
termination_by cs => cs.length

/-- Reads a string behind its opening quote. -/
def readTextBody (cs : List Char) : Except Fault (String × List Char) := readTextOnto [] cs

end TrafficCapture.Json
