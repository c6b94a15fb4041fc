/-
Compiled patterns: compiling pattern text, and searching texts for it.
-/
import ProxyMaps.Regex.Matcher
import ProxyMaps.Regex.Nesting

namespace ProxyMaps.Regex

/-- A compiled pattern. -/
structure Pattern where
  text : String
  /-- The number of groups that keep their text. -/
  groups : Nat
  node : Node
  deriving DecidableEq, Repr

/-- A match: where it starts and ends, counted in characters, and its text. -/
structure Found where
  start : Nat
  stop : Nat
  text : String
  deriving DecidableEq, Repr

namespace Pattern

/-- The pattern of a text, or what is wrong with the text. -/
def compile [Text.CharacterNames] (text : String) : Except Fault Pattern :=
  (Nesting.ofPattern text.toList).map fun r => ⟨text, r.groups, r.node⟩

/-- The first match in a text. -/
def search (p : Pattern) (s : String) : Option Found :=
  (p.node.search s.toList).map fun (start, place) =>
    ⟨start, place.pos, String.ofList ((s.toList.drop start).take (place.pos - start))⟩

/-- Whether a text contains a match. -/
def matchesIn (p : Pattern) (s : String) : Bool := (p.search s).isSome

/-- Whether the whole of a text is a match. -/
def matchesAll (p : Pattern) (s : String) : Bool := p.node.matchesAll s.toList

end Pattern

/-- Pattern text that matches where a pattern matches the whole of a text. -/
def anchored (pattern : String) : String := "\\A(?:" ++ pattern ++ ")\\Z"

end ProxyMaps.Regex
