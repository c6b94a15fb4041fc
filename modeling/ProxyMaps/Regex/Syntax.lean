/-
The syntax trees of patterns, with the switches that pattern text can set.
All switches are already applied in a tree: whether a letter's case matters,
what a point passes and where a line may end is part of its leaves.
-/
import ProxyMaps.Regex.CharTest

namespace ProxyMaps.Regex

/-- The switches of pattern text. -/
structure Flags where
  ignoreCase : Bool := false
  /-- Lines inside the text have beginnings and ends. -/
  multiline : Bool := false
  /-- A point passes a line feed. -/
  dotAll : Bool := false
  /-- Blanks and comments in the pattern are skipped. -/
  verbose : Bool := false
  /-- Named classes and case know ASCII only. -/
  ascii : Bool := false
  /-- Named classes and case know all scripts. -/
  unicode : Bool := false
  /-- Repetitions are refused. -/
  template : Bool := false
  deriving DecidableEq, Repr

namespace Flags

/-- The switches of either of two. -/
def union (f g : Flags) : Flags where
  ignoreCase := f.ignoreCase || g.ignoreCase
  multiline := f.multiline || g.multiline
  dotAll := f.dotAll || g.dotAll
  verbose := f.verbose || g.verbose
  ascii := f.ascii || g.ascii
  unicode := f.unicode || g.unicode
  template := f.template || g.template

/-- Whether two have a switch in common. -/
def meets (f g : Flags) : Bool :=
  (f.ignoreCase && g.ignoreCase) || (f.multiline && g.multiline) || (f.dotAll && g.dotAll) ||
    (f.verbose && g.verbose) || (f.ascii && g.ascii) || (f.unicode && g.unicode) ||
    (f.template && g.template)

/-- The switches inside a group that turns some on and some off. -/
def within (f on off : Flags) : Flags where
  ignoreCase := (f.ignoreCase || on.ignoreCase) && !off.ignoreCase
  multiline := (f.multiline || on.multiline) && !off.multiline
  dotAll := (f.dotAll || on.dotAll) && !off.dotAll
  verbose := (f.verbose || on.verbose) && !off.verbose
  ascii := if on.ascii || on.unicode then on.ascii else f.ascii
  unicode := if on.ascii || on.unicode then on.unicode else f.unicode
  template := f.template

/-- How letters are compared. -/
def caseMode (f : Flags) : CaseMode :=
  if !f.ignoreCase then .exact else if f.ascii then .asciiFold else .fold

end Flags

/-- Places in a text. -/
inductive Anchor where
  | textStart
  | textEnd
  /-- The end of the text, or in front of a line feed that ends it. -/
  | lastLineEnd
  /-- The start of the text, or behind a line feed. -/
  | lineStart
  /-- The end of the text, or in front of a line feed. -/
  | lineEnd
  /-- Between a word character and another one, or with `negated` anywhere else. -/
  | wordEdge (negated : Bool) (ascii : Bool)
  deriving DecidableEq, Repr

/-- How often a repetition tries to repeat. -/
inductive LoopMode where
  /-- As often as possible first. -/
  | greedy
  /-- As seldom as possible first. -/
  | reluctant
  /-- As often as possible, and never less. -/
  | possessive
  deriving DecidableEq, Repr

/-- Where a condition on the surroundings looks. -/
inductive Direction where
  /-- At the text that follows. -/
  | ahead
  /-- At the given number of characters in front. -/
  | behind (width : Nat)
  deriving DecidableEq, Repr

/-- The syntax tree of a pattern. -/
inductive Node where
  /-- The empty text. -/
  | empty
  /-- One character that passes a test. -/
  | one (test : CharTest)
  /-- No text, at certain places. -/
  | anchor (a : Anchor)
  /-- One pattern after another. -/
  | seq (first second : Node)
  /-- The first pattern or else the second. -/
  | alt (first second : Node)
  /-- A pattern whose text is kept under a number. -/
  | group (number : Nat) (body : Node)
  /-- A pattern repeated; without `max` there is no upper limit. -/
  | loop (min : Nat) (max : Option Nat) (mode : LoopMode) (body : Node)
  /-- A pattern that keeps its first way of matching. -/
  | atomic (body : Node)
  /-- A condition on the text around, or with `negated` its contrary. -/
  | look (dir : Direction) (negated : Bool) (body : Node)
  /-- The text that a group has kept. -/
  | backref (mode : CaseMode) (number : Nat)
  /-- The first pattern if a group has kept a text, else the second. -/
  | ifGroup (number : Nat) (yes no : Node)
  deriving DecidableEq, Repr

namespace Node

/-- The patterns of a list one after the other. -/
def seqOf : List Node → Node
  | [] => empty
  | [n] => n
  | n :: rest => seq n (seqOf rest)

/-- The patterns of a list as alternatives. -/
def altOf : List Node → Node
  | [] => empty
  | [n] => n
  | n :: rest => alt n (altOf rest)

/-- Whether there is a repetition in a pattern. -/
def hasLoop : Node → Bool
  | empty | one _ | anchor _ | backref _ _ => false
  | seq a b | alt a b | ifGroup _ a b => a.hasLoop || b.hasLoop
  | group _ a | atomic a | look _ _ a => a.hasLoop
  | loop _ _ _ _ => true

end Node

end ProxyMaps.Regex
