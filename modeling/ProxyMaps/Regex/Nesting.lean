/-
From the lexemes of a pattern to its tree.

The lexemes are taken one by one. The groups that are open form a stack; the
top one collects the pieces of its current alternative, and a closing bracket
turns it into a piece of the group below. The first lexeme that does not fit
decides what is wrong with the pattern.
-/
import ProxyMaps.Regex.Lexeme

namespace ProxyMaps.Regex

/-- The least and the greatest length of the texts of a pattern; there may be no greatest. -/
structure Width where
  least : Nat
  greatest : Option Nat
  deriving DecidableEq, Repr

namespace Width

/-- Exactly `n` characters. -/
def exactly (n : Nat) : Width := ⟨n, some n⟩

/-- One text after another. -/
def add (a b : Width) : Width :=
  ⟨a.least + b.least, do return (← a.greatest) + (← b.greatest)⟩

/-- One text or another. -/
def either (a b : Width) : Width :=
  ⟨Nat.min a.least b.least, do return Nat.max (← a.greatest) (← b.greatest)⟩

/-- A text repeated. -/
def times (w : Width) (min : Nat) (max : Option Nat) : Width where
  least := w.least * min
  greatest :=
    match max with
    | none => if w.greatest = some 0 then some 0 else none
    | some 0 => some 0
    | some m => w.greatest.map (· * m)

/-- Conditions on the text in front look back at most this far. -/
def maxBehind : Nat := 0xffffffff

/-- The length of a pattern whose texts are all equally long. -/
def fixed? (w : Width) : Option Nat :=
  if w.greatest = some w.least && w.least ≤ maxBehind then some w.least else none

end Width

namespace Nesting

/-- What may follow a piece. -/
inductive Trait where
  /-- The piece is a place, which cannot be repeated. -/
  | place
  /-- The piece is a repetition, which cannot be repeated again. -/
  | loop
  | other
  deriving DecidableEq, Repr

/-- A part of an alternative. -/
structure Piece where
  node : Node
  width : Width
  trait : Trait := .other

/-- What a group will be when it is closed. -/
inductive Role where
  /-- The whole pattern, which no bracket closes. -/
  | whole
  | capture (number : Nat)
  | plain
  | atomic
  /-- A condition on the surroundings; `limit` is what was in force outside. -/
  | look (behind negated : Bool) (limit : Option Nat)
  | ifGroup (number : Nat)
  deriving DecidableEq, Repr

/-- A group that is open. -/
structure Frame where
  role : Role
  /-- The switches inside the group. -/
  flags : Flags
  /-- The alternatives that are complete, the last first. -/
  done : List (Node × Width) := []
  /-- The pieces of the current alternative, the last first. -/
  pieces : List Piece := []

namespace Frame

/-- The current alternative. -/
def current (f : Frame) : Node × Width :=
  (Node.seqOf (f.pieces.reverse.map Piece.node),
    f.pieces.foldr (fun p w => w.add p.width) (.exactly 0))

/-- All alternatives, the current one last. -/
def alternatives (f : Frame) : List (Node × Width) := (f.current :: f.done).reverse

/-- The tree of the alternatives. -/
def node (f : Frame) : Node := Node.altOf (f.alternatives.map Prod.fst)

/-- The width of the alternatives. -/
def width (f : Frame) : Width := f.done.foldl (fun w a => w.either a.2) f.current.2

/-- The group with one more piece. -/
def push (f : Frame) (p : Piece) : Frame := { f with pieces := p :: f.pieces }

/-- The group with its current alternative complete. -/
def split (f : Frame) : Frame := { f with done := f.current :: f.done, pieces := [] }

end Frame

/-- What is known after some lexemes. -/
structure State where
  top : Frame := ⟨.whole, {}, [], []⟩
  /-- The groups around the top one, the innermost first. -/
  outer : List Frame := []
  /-- The number of the next group that keeps its text. -/
  nextGroup : Nat := 1
  names : List (List Char × Nat) := []
  /-- The widths of the groups that are closed. -/
  widths : List (Nat × Width) := []
  /-- Inside a condition on the text in front: the number of the first group in it. -/
  limit : Option Nat := none
  /-- The greatest number by which a condition refers to a group. -/
  greatestRef : Nat := 0
  /-- The switches of the whole pattern. -/
  globals : Flags := {}
  /-- Whether some condition on the text in front has no fixed width. -/
  looseBehind : Bool := false

/-- What becomes of a pattern: its tree, and the number of groups that keep their text. -/
structure Result where
  node : Node
  groups : Nat
  deriving DecidableEq, Repr

namespace State

/-- Adds a piece to the top group. -/
def push (s : State) (p : Piece) : State := { s with top := s.top.push p }

/-- Adds a test of one character. -/
def pushTest (s : State) (t : CharTest) : State := s.push ⟨.one t, .exactly 1, .other⟩

/-- Adds a place. -/
def pushPlace (s : State) (a : Anchor) : State := s.push ⟨.anchor a, .exactly 0, .place⟩

/-- The number of a group that a reference names. -/
def number? (s : State) : GroupRef → Option Nat
  | .number n => some n
  | .name name => (s.names.find? fun e => e.1 = name).map Prod.snd

/-- The width of a group that is closed. -/
def width? (s : State) (n : Nat) : Option Width :=
  (s.widths.find? fun e => e.1 = n).map Prod.snd

/-- Whether a group may be referred to here, as far as a condition on the text in front goes. -/
def reachable (s : State) (n : Nat) : Bool :=
  match s.limit with
  | none => true
  | some limit => (s.width? n).isSome && n < limit

/-- The fault of a text that ends here or has a closing bracket too many. -/
def endFault (s : State) : Fault :=
  if s.globals.ascii && s.globals.unicode then .flagConflict else .malformed

/-- Repeats the last piece. -/
def repeatLast (s : State) (min : Nat) (max : Option Nat) (mode : LoopMode) :
    Except Fault State :=
  match s.top.pieces with
  | ⟨node, width, .other⟩ :: rest =>
    let piece : Piece := ⟨.loop min max mode node, width.times min max, .loop⟩
    .ok { s with top := { s.top with pieces := piece :: rest } }
  | _ => .error .malformed

/-- Opens a group. -/
def enter (s : State) (role : Role) (flags : Flags) : State :=
  { s with top := ⟨role, flags, [], []⟩, outer := s.top :: s.outer }

/-- Opens a group that keeps its text. -/
def enterCapture (s : State) (name : Option (List Char)) : Except Fault State :=
  let n := s.nextGroup
  let s := { s with nextGroup := n + 1 }
  match name with
  | none => .ok (s.enter (.capture n) s.top.flags)
  | some name =>
    if (s.number? (.name name)).isSome then .error .malformed
    else .ok ({ s with names := (name, n) :: s.names }.enter (.capture n) s.top.flags)

/-- Opens a group of any kind. -/
def openGroup (s : State) : Opening → Except Fault State
  | .capture name => s.enterCapture name
  | .plain on off => .ok (s.enter .plain (s.top.flags.within on off))
  | .atomic => .ok (s.enter .atomic s.top.flags)
  | .look behind negated =>
    let inside := s.enter (.look behind negated s.limit) s.top.flags
    .ok (if behind then { inside with limit := s.limit.or (some s.nextGroup) } else inside)
  | .ifGroup ref =>
    match s.number? ref with
    | none => .error .malformed
    | some n =>
      if s.reachable n then
        .ok ({ s with greatestRef := Nat.max s.greatestRef n }.enter (.ifGroup n) s.top.flags)
      else .error .malformed

/-- The text of a group that is closed. -/
def refer (s : State) (ref : GroupRef) : Except Fault State :=
  match s.number? ref with
  | none => .error .malformed
  | some n =>
    match s.width? n with
    | none => .error .malformed
    | some width =>
      if s.reachable n then .ok (s.push ⟨.backref s.top.flags.caseMode n, width, .other⟩)
      else .error .malformed

/-- The two patterns of a condition on a group; the second one may be missing. -/
def branches (f : Frame) : Node × Node × Width :=
  match f.alternatives with
  | [(yes, w), (no, v)] => (yes, no, w.either v)
  | _ => (f.node, .empty, ⟨0, f.width.greatest⟩)

/-- Leaves the top group and adds what it has become to the group below. -/
def leave (s : State) (below : Frame) (outer : List Frame) : State :=
  let f := s.top
  let s := { s with top := below, outer := outer }
  match f.role with
  | .whole | .plain => s.push ⟨f.node, f.width, .other⟩
  | .capture n =>
    { s with widths := (n, f.width) :: s.widths }.push ⟨.group n f.node, f.width, .other⟩
  | .atomic => s.push ⟨.atomic f.node, f.width, .other⟩
  | .look false negated _ => s.push ⟨.look .ahead negated f.node, .exactly 0, .other⟩
  | .look true negated limit =>
    let w := f.width.fixed?
    { s with limit := limit, looseBehind := s.looseBehind || w.isNone }.push
      ⟨.look (.behind (w.getD 0)) negated f.node, .exactly 0, .other⟩
  | .ifGroup n =>
    let (yes, no, width) := branches f
    s.push ⟨.ifGroup n yes no, width, .other⟩

/-- Whether nothing but switches has been read. -/
def atStart (s : State) : Bool := s.outer.isEmpty && s.top.done.isEmpty && s.top.pieces.isEmpty

/-- The start of another alternative; a condition on a group has at most two. -/
def bar (s : State) : Except Fault State :=
  match s.top.role, s.top.done with
  | .ifGroup _, _ :: _ => .error .malformed
  | _, _ => .ok { s with top := s.top.split }

/-- Takes one lexeme. -/
def step (s : State) (l : Lexeme) : Except Fault State :=
  let flags := s.top.flags
  match l with
  | .code n => .ok (s.pushTest (.code false flags.caseMode n))
  | .anyChar => .ok (s.pushTest (if flags.dotAll then .any else .notNewline))
  | .members negated [.code n] => .ok (s.pushTest (.code negated flags.caseMode n))
  | .members negated items =>
    .ok (s.pushTest (.members negated flags.caseMode flags.ascii items))
  | .caret => .ok (s.pushPlace (if flags.multiline then .lineStart else .textStart))
  | .dollar => .ok (s.pushPlace (if flags.multiline then .lineEnd else .lastLineEnd))
  | .textStart => .ok (s.pushPlace .textStart)
  | .textEnd => .ok (s.pushPlace .textEnd)
  | .wordEdge negated => .ok (s.pushPlace (.wordEdge negated flags.ascii))
  | .backref ref => s.refer ref
  | .loop min max mode => s.repeatLast min max mode
  | .bar => s.bar
  | .opening o => s.openGroup o
  | .close =>
    match s.outer with
    | below :: outer => .ok (s.leave below outer)
    | [] => .error s.endFault
  | .globalFlags on =>
    if s.atStart then
      .ok { s with
        top := { s.top with flags := s.top.flags.union on }
        globals := s.globals.union on }
    else .error .malformed
  | .bad f => .error f

/-- Takes lexemes in order, up to the first fault. -/
def run (s : State) : List Lexeme → Except Fault State
  | [] => .ok s
  | l :: rest =>
    match s.step l with
    | .ok s => s.run rest
    | .error f => .error f

/-- The tree at the end of the pattern text. -/
def finish (s : State) : Except Fault Result :=
  if !s.outer.isEmpty then .error .malformed
  else if s.globals.ascii && s.globals.unicode then .error .flagConflict
  else if s.nextGroup ≤ s.greatestRef || s.looseBehind then .error .malformed
  else
    let node := s.top.node
    if s.globals.template && node.hasLoop then .error .malformed
    else .ok ⟨node, s.nextGroup - 1⟩

end State

/-- The tree of a pattern text. -/
def ofPattern [Text.CharacterNames] (s : List Char) : Except Fault Result :=
  match State.run {} (Lexeme.ofPattern s) with
  | .ok state => state.finish
  | .error f => .error f

end Nesting

end ProxyMaps.Regex
