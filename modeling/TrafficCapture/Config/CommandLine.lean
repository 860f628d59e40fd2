import TrafficCapture.Config
import TrafficCapture.Text.Numeral
import TrafficCapture.Text.Search

/-! Reading the configuration from arguments and, for what they leave open, from variables of the
environment. -/

namespace TrafficCapture.Config

/-- A part of the configuration. -/
inductive Key where
  | restHost
  | restPort
  | proxyHost
  | proxyPort
  | disableCapture
  | maxEntries
  | queryTimeout
  | logDir
  deriving DecidableEq, Repr

namespace Key

/-- All keys, in the order in which variables are looked up. -/
def all : List Key :=
  [restHost, restPort, proxyHost, proxyPort, disableCapture, maxEntries, queryTimeout, logDir]

/-- The words of a key's name. -/
def words : Key → List String
  | restHost => ["rest", "host"]
  | restPort => ["rest", "port"]
  | proxyHost => ["proxy", "host"]
  | proxyPort => ["proxy", "port"]
  | disableCapture => ["disable", "capture"]
  | maxEntries => ["max", "entries"]
  | queryTimeout => ["query", "timeout", "ms"]
  | logDir => ["log", "dir"]

/-- The name of the argument, without the hyphens in front. -/
def argument (k : Key) : String := "-".intercalate k.words

/-- The name of the variable. -/
def variableName (k : Key) : String := "_".intercalate ("HARCAP" :: k.words.map String.toUpper)

end Key

/-- Why no configuration comes of the arguments and variables. -/
inductive Fault where
  | unknownArgument
  /-- A value is missing, or is not one of those that are possible. -/
  | invalidValue
  /-- A number cannot be read or is out of range. -/
  | malformedNumber
  | repeated
  /-- A value is attached to an argument that takes none. -/
  | unwantedValue
  | helpWanted
  | versionWanted
  deriving DecidableEq, Repr

/-- What a person is told about a fault. -/
def Fault.message : Fault → String
  | .unknownArgument => "unexpected argument"
  | .invalidValue => "missing or impossible value"
  | .malformedNumber => "invalid number"
  | .repeated => "an argument may be given only once"
  | .unwantedValue => "unexpected value of an argument that takes none"
  | .helpWanted => "help"
  | .versionWanted => "version"

/-- Reads a port, which may have a sign. -/
def readPort (value : String) : Except Fault UInt16 :=
  match value.toList with
  | '-' :: digits =>
    match Text.readUnsigned 10 0 digits, digits with
    | .ok _, '0' :: _ => .ok 0
    | _, _ => .error .malformedNumber
  | cs => (Text.readPort cs).mapError fun _ => .malformedNumber

def readWord64 (value : String) : Except Fault UInt64 :=
  (Text.readWord64 value.toList).mapError fun _ => .malformedNumber

/-- Gives a key its value. -/
def assign (c : Config) (value : String) : Key → Except Fault Config
  | .restHost => .ok { c with restHost := value }
  | .restPort => (readPort value).map fun port => { c with restPort := port }
  | .proxyHost => .ok { c with proxyHost := value }
  | .proxyPort => (readPort value).map fun port => { c with proxyPort := port }
  | .disableCapture =>
    match value with
    | "true" => .ok { c with disableCapture := true }
    | "false" => .ok { c with disableCapture := false }
    | _ => .error .invalidValue
  | .maxEntries => (readWord64 value).map fun n => { c with maxEntries := n }
  | .queryTimeout => (readWord64 value).map fun n => { c with queryTimeout := n }
  | .logDir => if value.isEmpty then .error .invalidValue else .ok { c with logDir := some value }

/-- What an argument with two hyphens names. -/
inductive Flag where
  | key (k : Key)
  | help
  | version
  deriving DecidableEq, Repr

def Flag.named? (name : String) : Option Flag :=
  if name == "help" then some .help
  else if name == "version" then some .version
  else (Key.all.find? fun k => k.argument == name).map .key

/-- The arguments read so far. A key whose value stands in an argument of its own is kept back
until the next key is met, and so are the faults of its value. -/
structure Progress where
  config : Config := {}
  given : List Key := []
  pending : Option (Key × Option String) := none
  /-- Whether the rest are no longer options. -/
  literal : Bool := false
  deriving DecidableEq, Repr

namespace Progress

/-- Gives a key its value, which it may have only once. -/
def give (p : Progress) (k : Key) (value : Option String) : Except Fault Progress :=
  match value with
  | none => .error .invalidValue
  | some value =>
    if p.given.contains k then .error .repeated
    else (p.config.assign value k).map fun config => { p with config, given := k :: p.given }

/-- Gives the key that was kept back its value. -/
def settle (p : Progress) : Except Fault Progress :=
  match p.pending with
  | none => .ok p
  | some (k, value) => { p with pending := none }.give k value

/-- Reads an option with two hyphens, and the value attached to it. -/
def long (p : Progress) (name : String) (value : Option String) : Except Fault Progress :=
  match Flag.named? name with
  | none => .error .unknownArgument
  | some (.key .disableCapture) =>
    if value.isSome then .error .unwantedValue
    else do (← p.settle).give .disableCapture (some "true")
  | some (.key k) => do
    let p ← p.settle
    match value with
    | some value => p.give k (some value)
    | none => return { p with pending := some (k, none) }
  | some .help =>
    if value.isSome then .error .unwantedValue else p.settle.bind fun _ => .error .helpWanted
  | some .version =>
    if value.isSome then .error .unwantedValue else p.settle.bind fun _ => .error .versionWanted

/-- Reads an option with one hyphen. -/
def short (p : Progress) (c : Char) : Except Fault Progress :=
  match c with
  | 'h' => p.settle.bind fun _ => .error .helpWanted
  | 'V' => p.settle.bind fun _ => .error .versionWanted
  | _ => .error .unknownArgument

/-- Reads an argument that is no option: the value that was waited for. -/
def plain (p : Progress) (value : String) : Except Fault Progress :=
  match p.pending with
  | some (k, none) => .ok { p with pending := some (k, some value) }
  | _ => .error .unknownArgument

/-- Reads one argument. -/
def read (p : Progress) (argument : String) : Except Fault Progress :=
  if p.literal then .error .unknownArgument
  else
    match argument.toList with
    | ['-', '-'] => .ok { p with literal := true }
    | '-' :: '-' :: rest =>
      let (name, value) := Text.cutAt '=' rest
      p.long (String.ofList name) (value.map String.ofList)
    | '-' :: c :: _ => p.short c
    | _ => p.plain argument

/-- Looks up the variable of a key that no argument gave. -/
def lookUp (environment : List (String × String)) (p : Progress) (k : Key) :
    Except Fault Progress :=
  if p.given.contains k then .ok p
  else
    match environment.lookup k.variableName with
    | none => .ok p
    | some value => p.give k (some value)

end Progress

/-- The configuration that arguments and variables make. -/
def ofCommandLine (arguments : List String) (environment : List (String × String)) :
    Except Fault Config := do
  let p ← arguments.foldlM Progress.read {}
  let p ← p.settle
  let p ← Key.all.foldlM (Progress.lookUp environment) p
  return p.config

end TrafficCapture.Config
