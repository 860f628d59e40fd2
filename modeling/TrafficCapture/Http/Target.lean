import TrafficCapture.Text.Ascii
import TrafficCapture.Text.Utf8

/-! Targets of requests to the control interface: a path, an absolute URI, an authority, or an
asterisk. Only the path and the query count. -/

namespace TrafficCapture.Http

/-- What a target says about the resource. A target that names no path has an empty one. -/
structure Target where
  path : String
  query : Option String
  deriving DecidableEq, Repr

namespace Target

/-- The greatest length of a target, in bytes. -/
def lengthLimit : Nat := 65534

/-- A character that a path may hold. Beyond ASCII all of them may. -/
def isPathChar (c : Char) : Bool :=
  let n := c.toNat
  n == 0x21 || n == 0x22 || (0x24 ≤ n && n ≤ 0x3B) || n == 0x3D || (0x40 ≤ n && n ≤ 0x5F) ||
    (0x61 ≤ n && n ≤ 0x7E) || 0x7F ≤ n

/-- A character that a query may hold. -/
def isQueryChar (c : Char) : Bool :=
  let n := c.toNat
  n == 0x21 || (0x24 ≤ n && n ≤ 0x3B) || n == 0x3D || 0x3F ≤ n

/-- Reads a path and a query; a fragment is dropped. An empty path stands for the root. -/
def ofPathAndQuery? (cs : List Char) : Option Target :=
  let (path, rest) := cs.span fun c => c != '?' && c != '#'
  if !path.all isPathChar then none
  else
    let shown := if path.isEmpty then "/" else String.ofList path
    match rest with
    | '?' :: rest =>
      let query := rest.takeWhile (· != '#')
      if query.all isQueryChar then some ⟨shown, some (String.ofList query)⟩ else none
    | _ => some ⟨shown, none⟩

/-- A character that an authority may hold besides brackets, colons, at signs and percent signs. -/
def isPlainAuthorityChar (c : Char) : Bool :=
  c.isAlphanum || "!$&'()*+,-.;=_~".toList.contains c

/-- What has been seen of an authority. Colons and percent signs of user names and of bracketed
addresses are forgotten. -/
structure AuthoritySeen where
  colons : Nat
  opened : Bool
  closed : Bool
  percent : Bool
  endsWithAt : Bool

/-- Takes note of one more character of an authority. -/
def AuthoritySeen.add? (seen : AuthoritySeen) (c : Char) : Option AuthoritySeen :=
  let seen := { seen with endsWithAt := c == '@' }
  if c == ':' then if 8 ≤ seen.colons then none else some { seen with colons := seen.colons + 1 }
  else if c == '[' then
    if seen.percent || seen.opened then none else some { seen with opened := true }
  else if c == ']' then
    if !seen.opened || seen.closed then none
    else some { seen with closed := true, colons := 0, percent := false }
  else if c == '@' then some { seen with colons := 0, percent := false }
  else if c == '%' then some { seen with percent := true }
  else if isPlainAuthorityChar c then some seen
  else none

/-- Whether a text is an authority. The empty text is one. -/
def isAuthority (cs : List Char) : Bool :=
  match cs.foldlM AuthoritySeen.add? ⟨0, false, false, false, false⟩ with
  | none => false
  | some seen =>
    seen.opened == seen.closed && seen.colons ≤ 1 && !seen.endsWithAt && !seen.percent

def isSchemeChar (c : Char) : Bool := c.isAlphanum || c == '+' || c == '-' || c == '.'

/-- What follows the scheme of an absolute URI; `none` inside if its scheme is too long. -/
def behindScheme? (cs : List Char) : Option (Option (List Char)) :=
  let (scheme, rest) := cs.span isSchemeChar
  match rest with
  | ':' :: '/' :: '/' :: rest => some (if 64 < scheme.length then none else some rest)
  | _ => none

def parse? (text : String) : Option Target :=
  let cs := text.toList
  if lengthLimit < text.utf8ByteSize then none
  else
    match cs with
    | [] => none
    | ['*'] => some ⟨"*", none⟩
    | '/' :: _ => ofPathAndQuery? cs
    | _ =>
      match behindScheme? cs with
      | some none => none
      | some (some rest) =>
        let (authority, rest) := rest.span fun c => c != '/' && c != '?' && c != '#'
        if authority.isEmpty || !isAuthority authority then none else ofPathAndQuery? rest
      | none => if isAuthority cs then some ⟨"", none⟩ else none

end Target

end TrafficCapture.Http
