/-
The tokens of a YAML text. Besides what is written, they say where the
collections begin and end that only their indentation shows.
-/

namespace ProxyMaps.Yaml

/-- A token. -/
inductive Token where
  /-- The version of the language that a document asks for. -/
  | version (major minor : Nat)
  /-- A short name for the beginning of tags. -/
  | tagHandle (handle start : String)
  | documentStart
  | documentEnd
  | blockSequenceStart
  | blockMappingStart
  | blockEnd
  | flowSequenceStart
  | flowSequenceEnd
  | flowMappingStart
  | flowMappingEnd
  | blockEntry
  | flowEntry
  | key
  | value
  | alias (name : String)
  | anchor (name : String)
  | tag (handle suffix : String)
  | scalar (text : String) (isPlain : Bool)
  | textEnd
  /-- From here on the text has no tokens. -/
  | unreadable
  deriving DecidableEq, Repr, Inhabited

end ProxyMaps.Yaml
