/-
Matching a pattern at a place of a text.

`run` gives the ways to match in order of preference, each as the place behind
the text that is matched and what the groups have kept. A repetition takes one
empty round at most, so it ends; a round that follows an empty one could only
repeat it.
-/
import ProxyMaps.Regex.Choices
import ProxyMaps.Regex.Syntax

namespace ProxyMaps.Regex

/-- Where the text of a group starts and, once the group was left, where it ended. -/
structure Mark where
  group : Nat
  start : Nat
  stop : Option Nat
  deriving DecidableEq, Repr

/-- A place in a text, with what the groups have kept on the way to it. -/
structure Place where
  /-- The number of characters in front. -/
  pos : Nat
  /-- The characters in front, the nearest first. -/
  before : List Char
  /-- The characters that follow. -/
  after : List Char
  marks : List Mark
  deriving DecidableEq, Repr

namespace Place

/-- The beginning of a text. -/
def start (s : List Char) : Place := ⟨0, [], s, []⟩

/-- The place behind the next character, if it passes a test. -/
def step? (t : CharTest) (p : Place) : Option Place :=
  match p.after with
  | c :: rest =>
    if t.passes c then some { p with pos := p.pos + 1, before := c :: p.before, after := rest }
    else none
  | [] => none

/-- The place a number of characters further on. -/
def forward (p : Place) (n : Nat) : Place :=
  { p with
    pos := p.pos + n
    before := (p.after.take n).reverse ++ p.before
    after := p.after.drop n }

/-- The place a number of characters back, if there are that many. -/
def back? (p : Place) (n : Nat) : Option Place :=
  if n ≤ p.pos then
    some { p with
      pos := p.pos - n
      before := p.before.drop n
      after := (p.before.take n).reverse ++ p.after }
  else none

/-- What is known of a group. -/
def mark? (p : Place) (n : Nat) : Option Mark := p.marks.find? fun m => m.group == n

/-- The place with a mark set. -/
def setMark (p : Place) (m : Mark) : Place :=
  { p with marks := m :: p.marks.filter fun k => k.group != m.group }

/-- The place with the start of a group marked. -/
def openMark (p : Place) (n : Nat) : Place :=
  p.setMark ⟨n, p.pos, (p.mark? n).bind Mark.stop⟩

/-- The place with the end of a group marked. -/
def closeMark (p : Place) (n : Nat) : Place :=
  p.setMark ⟨n, ((p.mark? n).map Mark.start).getD p.pos, some p.pos⟩

/-- Where the text that a group has kept starts and ends. -/
def span? (p : Place) (n : Nat) : Option (Nat × Nat) :=
  match p.mark? n with
  | some ⟨_, start, some stop⟩ => if start ≤ stop then some (start, stop) else none
  | _ => none

/-- The text that a group has kept. -/
def kept? (p : Place) (n : Nat) : Option (List Char) :=
  (p.span? n).map fun s => ((p.before.reverse ++ p.after).drop s.1).take (s.2 - s.1)

/-- Whether the next character is a word character. -/
def wordAhead (ascii : Bool) : List Char → Bool
  | c :: _ => if ascii then Text.isAsciiWord c else Text.isWord c
  | [] => false

/-- Whether the place is of a kind. -/
def isAt (p : Place) : Anchor → Bool
  | .textStart => p.before.isEmpty
  | .textEnd => p.after.isEmpty
  | .lastLineEnd => p.after.isEmpty || p.after == ['\n']
  | .lineStart => p.before.isEmpty || p.before.head? == some '\n'
  | .lineEnd => p.after.isEmpty || p.after.head? == some '\n'
  | .wordEdge negated ascii =>
    !(p.before.isEmpty && p.after.isEmpty) &&
      ((wordAhead ascii p.before != wordAhead ascii p.after) != negated)

/-- The place behind a text, if that text follows. -/
def follow? (mode : CaseMode) (p : Place) (text : List Char) : Option Place :=
  let ahead := p.after.take text.length
  let lower (c : Char) : Nat := mode.lower c.toNat
  if ahead.map lower = text.map lower then some (p.forward text.length) else none

end Place

namespace Node

/-- Matching something a number of times. -/
def times (body : Place → Choices Place) : Nat → Place → Choices Place
  | 0, p => .one p
  | n + 1, p => (body p).flatMap (times body n)

/--
Matching something any number of times up to `fuel`, no round following one
that was empty; `last` is where the last round started.
-/
def rounds (greedy : Bool) (body : Place → Choices Place) :
    Nat → Option Nat → Place → Choices Place
  | 0, _, p => .one p
  | fuel + 1, last, p =>
    if last = some p.pos then .one p
    else
      let more (_ : Unit) : Choices Place :=
        (body p).flatMap (rounds greedy body fuel (some p.pos))
      if greedy then (more ()).append fun _ => .one p
      else .next p more

/-- Matching something a number of times, each time in its first way. -/
def firstTimes (body : Place → Choices Place) : Nat → Place → Option Place
  | 0, p => some p
  | n + 1, p => (body p).head?.bind (firstTimes body n)

/-- Matching something as often as possible up to `fuel`, each time in its first way. -/
def firstRounds (body : Place → Choices Place) : Nat → Option Nat → Place → Place
  | 0, _, p => p
  | fuel + 1, last, p =>
    if last = some p.pos then p
    else
      match (body p).head? with
      | some q => firstRounds body fuel (some p.pos) q
      | none => p

/-- The number of rounds after the required ones: the upper limit, or what the rest of the text
admits. -/
def roundLimit (min : Nat) (max : Option Nat) (p : Place) : Nat :=
  let enough := p.after.length + 2
  match max with
  | none => enough
  | some m => Nat.min (m - min) enough

/-- The ways to match a pattern at a place, in order of preference. -/
def run : Node → Place → Choices Place
  | empty, p => .one p
  | one t, p => .ofOption (p.step? t)
  | anchor a, p => if p.isAt a then .one p else .done
  | seq a b, p => (run a p).flatMap (run b)
  | alt a b, p => (run a p).append fun _ => run b p
  | group n a, p => (run a (p.openMark n)).flatMap fun q => .one (q.closeMark n)
  | loop min max .greedy a, p =>
    (times (run a) min p).flatMap fun q => rounds true (run a) (roundLimit min max q) none q
  | loop min max .reluctant a, p =>
    (times (run a) min p).flatMap fun q => rounds false (run a) (roundLimit min max q) none q
  | loop min max .possessive a, p =>
    .ofOption ((firstTimes (run a) min p).map fun q =>
      firstRounds (run a) (roundLimit min max q) none q)
  | atomic a, p => .ofOption (run a p).head?
  | look dir negated a, p =>
    let from? : Option Place :=
      match dir with
      | .ahead => some p
      | .behind n => p.back? n
    let found := from?.bind fun q => (run a q).head?
    match found, negated with
    | some q, false => .one { p with marks := q.marks }
    | none, true => .one p
    | _, _ => .done
  | backref mode n, p => .ofOption ((p.kept? n).bind (p.follow? mode))
  | ifGroup n yes no, p => if (p.span? n).isSome then run yes p else run no p

/-- The first match at the place or behind it, as where it starts and the place where it ends. -/
def scan (node : Node) (pos : Nat) (before : List Char) :
    List Char → Option (Nat × Place)
  | [] => (run node ⟨pos, before, [], []⟩).head?.map fun q => (pos, q)
  | c :: rest =>
    match (run node ⟨pos, before, c :: rest, []⟩).head? with
    | some q => some (pos, q)
    | none => scan node (pos + 1) (c :: before) rest

/-- The first match in a text. -/
def search (node : Node) (s : List Char) : Option (Nat × Place) := scan node 0 [] s

/-- Whether a pattern matches the whole of a text. -/
def matchesAll (node : Node) (s : List Char) : Bool :=
  ((run node (Place.start s)).find? fun q => q.after.isEmpty).isSome

end Node

end ProxyMaps.Regex
