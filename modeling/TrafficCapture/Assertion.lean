import TrafficCapture.Exchange
import TrafficCapture.Pattern
import TrafficCapture.Text.Search

/-! Assertions about exchanges, and the results of checking them. -/

namespace TrafficCapture

/-- What is asserted of every exchange that a query selects. -/
inductive Assertion where
  | responseTimeAtMost (limit : UInt64)
  | statusEquals (expected : UInt16)
  | statusBelongsTo (family : Http.StatusClass)
  | contentContains (text : String)
  | contentLacks (text : String)
  | contentMatches (pattern : Pattern)
  | contentLengthAtMost (limit : UInt64)
  /-- Some header, of the given name if there is one, has a value that contains the text. -/
  | headerContains (name : Option String) (value : String)
  | headerLacks (name : Option String) (value : String)
  /-- Every header, whose name matches if there is a pattern for it, has a value that matches. -/
  | headersMatch (name : Option Pattern) (value : Pattern)

namespace Assertion

/-- The response headers that have both a name and a value. -/
def fullHeaders (e : Exchange) : Http.Headers :=
  e.responseHeaders.filter fun (name, value) => !name.isEmpty && !value.isEmpty

/-- Those of them that have the given name, if one is given, without regard to case. -/
def headersNamed (e : Exchange) (name : Option String) : Http.Headers :=
  (fullHeaders e).filter fun header =>
    name.all (Text.equalIgnoringCase header.1)

/-- The full headers whose name matches, if a pattern is given, and whose value does not. -/
def offendingHeaders (e : Exchange) (name : Option Pattern) (value : Pattern) : Http.Headers :=
  (fullHeaders e).filter fun header =>
    name.all (·.accepts header.1) && !value.accepts header.2

/-- Whether an exchange is as asserted. -/
def holds (e : Exchange) : Assertion → Bool
  | responseTimeAtMost limit => (e.timing.total.getD 0).toUInt64 ≤ limit
  | statusEquals expected => e.status.getD 0 == expected
  | statusBelongsTo family => family.contains (e.status.getD 0)
  | contentContains text => e.responseText?.any (Text.contains · text)
  | contentLacks text => !e.responseText?.any (Text.contains · text)
  | contentMatches pattern => e.responseText?.any pattern.accepts
  | contentLengthAtMost limit => e.contentSize ≤ limit
  | headerContains name value =>
    (headersNamed e name).any fun header => Text.contains header.2 value
  | headerLacks name value =>
    !(headersNamed e name).any fun header => Text.contains header.2 value
  | headersMatch name value => (offendingHeaders e name value).isEmpty

/-- What is said of an exchange that is not as asserted. -/
def complaint (e : Exchange) : Assertion → String
  | responseTimeAtMost limit =>
    "Time exceeded. Expected: " ++ toString limit.toNat ++ ", actual: " ++
      toString (e.timing.total.getD 0).toNat
  | statusEquals expected =>
    "Status mismatch. Expected: " ++ toString expected.toNat ++ ", actual: " ++
      toString (e.status.getD 0).toNat
  | statusBelongsTo family =>
    let actual := e.status.getD 0
    "Expected response status to belong to class: " ++ family.label ++ ", but was: " ++
      toString actual.toNat ++ " (belongs to " ++ (Http.StatusClass.ofCode actual).label ++ ")"
  | contentContains text =>
    "Expected to find string in content. Search string: '" ++ text ++ "', content: '" ++
      e.responseText?.getD "" ++ "'"
  | contentLacks text =>
    "Expected to find no string with specified value in content. Search string: '" ++ text ++
      "', content: '" ++ e.responseText?.getD "" ++ "'"
  | contentMatches pattern =>
    "Expected content to match pattern. Pattern: '" ++ pattern.source ++ "', content: '" ++
      e.responseText?.getD "" ++ "'"
  | contentLengthAtMost limit =>
    "Expected content length not to exceed max value. Max value: " ++ toString limit.toNat ++
      ", content length: " ++ toString e.contentSize.toNat
  | headerContains name value =>
    match name with
    | some name =>
      "Expected to find header with name: '" ++ name ++ "' and value containing string: '" ++
        value ++ "'"
    | none => "Expected to find one or more headers containing string: '" ++ value ++ "'"
  | headerLacks name value =>
    let found :=
      (((headersNamed e name).find? fun header => Text.contains header.2 value).map (·.1)).getD ""
    match name with
    | some _ =>
      "Expected to find no header with name '" ++ found ++ "' and value containing string '" ++
        value ++ "'"
    | none =>
      "Expected to find no headers containing string '" ++ value ++
        "'. Found header with name: '" ++ found ++ "' containing string: '" ++ value ++ "'"
  | headersMatch name value =>
    let names := ",".intercalate ((offendingHeaders e name value).map (·.1))
    match name with
    | some name =>
      "Expected headers with names matching pattern: '" ++ name.source ++
        "' to have values matching pattern: '" ++ value.source ++
        "'. Headers names not matching value pattern: '" ++ names ++ "'"
    | none =>
      "Expected headers values to match pattern: '" ++ value.source ++
        "'. Headers names which values don't match value pattern: " ++ names

/-- The complaint about an exchange that is not as asserted. -/
def check (a : Assertion) (e : Exchange) : Option String :=
  if a.holds e then none else some (a.complaint e)

end Assertion

end TrafficCapture
