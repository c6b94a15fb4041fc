/-
A cache of compiled patterns by their text, which is never emptied, and the
matching functions that go through it.

A text is compiled when it is first asked for. What is stored for it then is
what everybody gets from then on; a text that is no pattern leaves nothing
behind. The counters tell how often a text was found and how often it was not.
-/
import ProxyMaps.Regex.Pattern
import ProxyMaps.Table

namespace ProxyMaps.Regex

/-- A stored pattern, with the number of patterns that were stored before it. -/
structure Stored where
  pattern : Pattern
  serial : Nat
  deriving DecidableEq, Repr

/-- A cache of compiled patterns. -/
structure Cache where
  stored : Table String Stored := .empty
  /-- How often a text was found since the counters were reset. -/
  hits : Nat := 0
  /-- How often a text was not found since the counters were reset. -/
  misses : Nat := 0

namespace Cache

variable [Text.CharacterNames]

/-- The number of stored patterns. -/
def size (c : Cache) : Nat := c.stored.size

/-- Whether a pattern is stored for a text. -/
def contains (c : Cache) (text : String) : Bool := c.stored.contains text

/-- Sets the counters to zero. -/
def resetCounters : StateM Cache Unit := modify fun c => { c with hits := 0, misses := 0 }

/-- The pattern of a text: the stored one or, the first time, a new one. -/
def compile (text : String) : StateM Cache (Except Fault Stored) := fun c =>
  match c.stored.find? text with
  | some s => (.ok s, { c with hits := c.hits + 1 })
  | none =>
    let c := { c with misses := c.misses + 1 }
    match Pattern.compile text with
    | .error f => (.error f, c)
    | .ok p =>
      let s : Stored := ⟨p, c.size⟩
      (.ok s, { c with stored := c.stored.insert text s })

/-- The first match of a pattern in a text. -/
def search (pattern s : String) : StateM Cache (Except Fault (Option Found)) := do
  return (← compile pattern).map fun c => c.pattern.search s

/-- Whether a text contains a match of a pattern. -/
def matchesIn (pattern s : String) : StateM Cache (Except Fault Bool) := do
  return (← search pattern s).map Option.isSome

/-- An answer, with a default for patterns that break the grammar. -/
def orMalformed {α : Type} (default : α) : Except Fault α → Except Fault α
  | .error .malformed => .ok default
  | r => r

/-- Whether the whole of a text is a match of a pattern; a malformed pattern has none. -/
def matchesAll (pattern s : String) : StateM Cache (Except Fault Bool) := do
  return orMalformed false (← matchesIn (anchored pattern) s)

/-- The first of some texts that is a match as a whole; without one the empty text. -/
def firstMatch (pattern : String) (values : List String) : StateM Cache (Except Fault String) := do
  let compiled ← compile (anchored pattern)
  return orMalformed "" (compiled.map fun c =>
    (values.find? fun v => c.pattern.matchesIn v).getD "")

end Cache

end ProxyMaps.Regex
