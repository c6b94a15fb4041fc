/-
The snapshot that a text describes. A text that begins with a brace is JSON,
and every other text is YAML.
-/
import ProxyMaps.Json.Reader
import ProxyMaps.Snapshot.OfValue
import ProxyMaps.Yaml.Document

namespace ProxyMaps.Snapshot

/-- Whether a text looks like JSON: a brace is the first character that is no white space. -/
def looksLikeJson (text : String) : Bool := (Text.trimLeft text.toList).head? = some '\x7b'

/-- The document of a text. Integers of JSON have 64 bits. -/
def documentOf (text : String) : Except Fault Value :=
  if looksLikeJson text then
    match (Json.read? text).bind Json.narrow? with
    | some j => .ok (.ofJson j)
    | none => .error (.unparsable .malformed)
  else
    match Yaml.read text with
    | .ok [v] => .ok v
    | .ok vs => .error (.documentCount vs.length)
    | .error f => .error (.unparsable f)

/-- The snapshot that a text describes. -/
def ofText (settings : Settings) (override : Override) (text : String) : Except Fault Snapshot := do
  ofValue settings override (← documentOf text)

end ProxyMaps.Snapshot
