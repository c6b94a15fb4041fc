/-
Tags: what kind of value a node is meant to be. A plain scalar without a tag
gets the one whose pattern its text matches, and is a text if there is none.
-/
import ProxyMaps.Regex.Pattern

namespace ProxyMaps.Yaml

/-- A tag that documents may use; all others are `unknown`. -/
inductive Tag where
  | null
  | bool
  | int
  | float
  | binary
  | moment
  | orderedPairs
  | pairs
  | set
  | text
  | sequence
  | mapping
  /-- The key of the value that stands for a whole mapping. -/
  | value
  /-- The key of the mappings that are merged into a mapping. -/
  | merge
  | unknown
  deriving DecidableEq, Repr

namespace Tag

/-- Whether a tag asks for a scalar. -/
def isScalar : Tag → Bool
  | null | bool | int | float | binary | moment | text => true
  | _ => false

/-- Whether a tag asks for a collection. -/
def isCollection : Tag → Bool
  | sequence | mapping | set | orderedPairs | pairs => true
  | _ => false

/-- What the tags of the language begin with. -/
def start : String := "tag:yaml.org,2002:"

/-- The names of the tags behind `start`. -/
def names : List (String × Tag) := [
  ("null", null), ("bool", bool), ("int", int), ("float", float), ("binary", binary),
  ("timestamp", moment), ("omap", orderedPairs), ("pairs", pairs), ("set", set), ("str", text),
  ("seq", sequence), ("map", mapping), ("value", value), ("merge", merge)]

/-- The tag of a text. -/
def ofText (s : String) : Tag :=
  match names.find? fun n => start ++ n.1 = s with
  | some n => n.2
  | none => unknown

/-- The patterns of plain scalars that are no texts. -/
def patternTexts : List (Tag × String) := [
  (bool, "^(?:yes|Yes|YES|no|No|NO|true|True|TRUE|false|False|FALSE|on|On|ON|off|Off|OFF)$"),
  (float, "^(?:[-+]?(?:[0-9][0-9_]*)\\.[0-9_]*(?:[eE][-+][0-9]+)?" ++
    "|\\.[0-9][0-9_]*(?:[eE][-+][0-9]+)?" ++
    "|[-+]?[0-9][0-9_]*(?::[0-5]?[0-9])+\\.[0-9_]*" ++
    "|[-+]?\\.(?:inf|Inf|INF)|\\.(?:nan|NaN|NAN))$"),
  (int, "^(?:[-+]?0b[0-1_]+|[-+]?0[0-7_]+|[-+]?(?:0|[1-9][0-9_]*)" ++
    "|[-+]?0x[0-9a-fA-F_]+|[-+]?[1-9][0-9_]*(?::[0-5]?[0-9])+)$"),
  (merge, "^<<$"),
  (null, "^(?:~|null|Null|NULL)$"),
  (moment, "^(?:[0-9][0-9][0-9][0-9]-[0-9][0-9]-[0-9][0-9]" ++
    "|[0-9][0-9][0-9][0-9]-[0-9][0-9]?-[0-9][0-9]?(?:[Tt]|[ \\t]+)[0-9][0-9]?" ++
    ":[0-9][0-9]:[0-9][0-9](?:\\.[0-9]*)?(?:[ \\t]*(?:Z|[-+][0-9][0-9]?(?::[0-9][0-9])?))?)$"),
  (value, "^=$"),
  (unknown, "^[!&*]$")]

/-- The compiled patterns. They name no characters, so they are the same for every table of
names. -/
def patterns : List (Tag × Regex.Pattern) :=
  patternTexts.filterMap fun p => (Regex.Pattern.compile p.2).toOption.map fun r => (p.1, r)

/-- The tag of a plain scalar. -/
def ofPlain (s : String) : Tag :=
  if s.isEmpty then null
  else
    match patterns.find? fun p => p.2.matchesIn s with
    | some p => p.1
    | none => text

end Tag

end ProxyMaps.Yaml
