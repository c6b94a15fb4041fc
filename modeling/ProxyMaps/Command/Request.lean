/-
What the command line asks for. Options stand anywhere behind the command; one
with a value has it behind an equals sign or as the next argument, and none
is given twice.
-/
import ProxyMaps.Table
import ProxyMaps.Text.Lower
import ProxyMaps.Text.Split

namespace ProxyMaps.Command

/-- The options of the rendering of maps. -/
structure MapsOptions where
  /-- The file with the snapshot. -/
  snapshot : String
  outputDir : Option String := none
  workingDir : Option String := none
  disableHttp2 : Bool := false
  metricsFile : Option String := none
  debug : Bool := false
  stats : Bool := false
  deriving DecidableEq, Repr

/-- The options of the review of annotations. -/
structure CheckOptions where
  /-- The file with the snapshot. -/
  snapshot : String
  debug : Bool := false
  compact : Bool := false
  deriving DecidableEq, Repr

/-- A request. -/
inductive Request where
  | version
  | maps (o : MapsOptions)
  | check (o : CheckOptions)
  deriving DecidableEq, Repr

namespace Request

/-- The options that a command has. -/
structure Known where
  /-- Options that are on or off. -/
  flags : List String
  /-- Options with a value. -/
  valued : List String

/-- The options of the rendering of maps. -/
def mapsKnown : Known :=
  ⟨["--disable-http2", "--debug", "--stats"], ["--output-dir", "--working-dir", "--metrics-file"]⟩

/-- The options of the review of annotations. -/
def checkKnown : Known := ⟨["--debug", "--nopretty"], []⟩

/-- The arguments of a command, sorted out. -/
structure Arguments where
  positional : List String := []
  flags : Table String Bool := .empty
  values : Table String String := .empty

namespace Arguments

/-- Whether a flag is on. -/
def isOn (a : Arguments) (name : String) : Bool := a.flags.findD name false

/-- The values of a flag that leave it off, in small letters. -/
def offTexts : List String := ["", "0", "n", "no", "f", "false"]

/-- Whether the value of a flag puts it on. -/
def isOnText (s : List Char) : Bool := !offTexts.contains (String.ofList (Text.lower s))

/-- The arguments with one more flag, unless it has been given. -/
def addFlag? (a : Arguments) (name : String) (on : Bool) : Option Arguments :=
  if a.flags.contains name then none else some { a with flags := a.flags.insert name on }

/-- The arguments with one more value, unless its option has been given. -/
def addValue? (a : Arguments) (name value : String) : Option Arguments :=
  if a.values.contains name then none else some { a with values := a.values.insert name value }

/-- Whether an argument is an option rather than a name. -/
def isOption (arg : String) : Bool := arg.toList.head? = some '-' && 1 < arg.length

/-- An option and the value behind its equals sign, if it has one. -/
def cutOption (arg : String) : String × Option (List Char) :=
  match Text.cutFirst? '=' arg.toList with
  | some (name, value) => (String.ofList name, some value)
  | none => (arg, none)

/-- The arguments of a list, behind those already sorted out; after two hyphens all are names. -/
def read? (known : Known) (a : Arguments) (onlyNames : Bool) : List String → Option Arguments
  | [] => some a
  | arg :: rest =>
    if onlyNames || !isOption arg then
      read? known { a with positional := a.positional ++ [arg] } onlyNames rest
    else if arg = "--" then read? known a true rest
    else
      let (name, glued) := cutOption arg
      if known.flags.contains name then do
        let a ← a.addFlag? name ((glued.map isOnText).getD true)
        read? known a onlyNames rest
      else if known.valued.contains name then
        match glued, rest with
        | some value, rest => do
          let a ← a.addValue? name (String.ofList value)
          read? known a onlyNames rest
        | none, value :: rest => do
          let a ← a.addValue? name value
          read? known a onlyNames rest
        | none, [] => none
      else none

/-- The one name that has to be given. -/
def single? (a : Arguments) : Option String :=
  match a.positional with
  | [name] => some name
  | _ => none

end Arguments

/-- The request for maps with some arguments. -/
def mapsOf? (args : List String) : Option Request := do
  let a ← Arguments.read? mapsKnown {} false args
  return .maps {
    snapshot := ← a.single?
    outputDir := a.values.find? "--output-dir"
    workingDir := a.values.find? "--working-dir"
    disableHttp2 := a.isOn "--disable-http2"
    metricsFile := a.values.find? "--metrics-file"
    debug := a.isOn "--debug"
    stats := a.isOn "--stats" }

/-- The request for a review with some arguments. -/
def checkOf? (args : List String) : Option Request := do
  let a ← Arguments.read? checkKnown {} false args
  return .check {
    snapshot := ← a.single?
    debug := a.isOn "--debug"
    compact := a.isOn "--nopretty" }

/-- The request of a command line, if it is one. -/
def of? : List String → Option Request
  | ["--version"] => some .version
  | "maps" :: args => mapsOf? args
  | "check" :: args => checkOf? args
  | _ => none

end Request

end ProxyMaps.Command
