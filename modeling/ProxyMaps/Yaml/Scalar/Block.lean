/-
Block scalars: lines that are indented more than what is around them. They
keep their line breaks, or have single line breaks between words folded into
spaces; the header says which line breaks at the end are kept.
-/
import ProxyMaps.Yaml.Source

namespace ProxyMaps.Yaml.Block

/-- What happens to the line breaks at the end. -/
inductive Chomping where
  /-- None is kept. -/
  | strip
  /-- The first is kept. -/
  | clip
  /-- All are kept. -/
  | keep
  deriving DecidableEq, Repr

/-- The header of a block scalar: what happens at the end, and how much further it is indented. -/
structure Header where
  chomping : Chomping := .clip
  /-- The columns that the header asks for, if it does. -/
  increment : Option Nat := none
  deriving DecidableEq, Repr

/-- The chomping that a character asks for. -/
def chomping? (c : Char) : Option Chomping :=
  if c = '+' then some .keep else if c = '-' then some .strip else none

/-- The chomping at the front of a source, and what follows it. -/
def readChomping (s : Source) : Option Chomping × Source :=
  match s with
  | [] => (none, [])
  | c :: rest =>
    match chomping? c.char with
    | some k => (some k, rest)
    | none => (none, s)

/-- The increment at the front of a source, and what follows it; it may not be zero. -/
def readIncrement? (s : Source) : Option (Option Nat × Source) :=
  match s with
  | [] => some (none, [])
  | c :: rest =>
    if c.char = '0' then none
    else if c.char.isDigit then some (some (c.char.toNat - 0x30), rest)
    else some (none, s)

/-- The header at the front of a source, and the first line after it. -/
def header? (s : Source) : Option (Header × Source) := do
  let (first, s) := readChomping s
  let (increment, s) ← readIncrement? s
  let (second, s) := if first.isNone && increment.isSome then readChomping s else (none, s)
  let s ← s.endOfLine?
  return (⟨(first.or second).getD .clip, increment⟩, s.drop 1)

/-- Whether a column is left of the indentation, or the indentation is not known yet. -/
def isMargin (indent : Option Nat) (column : Nat) : Bool :=
  match indent with
  | none => true
  | some n => column < n

/--
The empty lines here: their line breaks, the greatest column where one of them
or the line after them begins, and that line. No tab may stand in the margin.
-/
def emptyLines? (indent : Option Nat) (widest : Nat) :
    Source → Option (List Char × Nat × Source)
  | [] => some ([], widest, [])
  | c :: rest =>
    if c.char = ' ' && isMargin indent c.column then
      emptyLines? indent (max widest (c.column + 1)) rest
    else if c.char = '\t' && isMargin indent c.column then none
    else
      let widest := max widest c.column
      if isBreak c.char then
        (emptyLines? indent widest rest).map fun p => (c.char :: p.1, p.2)
      else some ([], widest, c :: rest)

/-- The text of line breaks between two lines: folded if both lines begin with a word. -/
def between (folded besideBlank : Bool) (first : List Char) (more : List Char) : List Char :=
  if folded && !besideBlank && first = ['\n'] then if more.isEmpty then [' '] else more
  else first ++ more

/-- The lines of a scalar as far as they have been read. -/
structure Lines where
  text : List Char := []
  /-- The line break after the last line, if there is one. -/
  lastBreak : List Char := []
  /-- The line breaks of the empty lines after that. -/
  emptyBreaks : List Char := []
  /-- Whether the last line begins with a blank. -/
  blankFirst : Bool := false

/-- The lines that are indented by `indent` columns. Every round takes a character, so the fuel
never runs out. -/
def lines? (folded : Bool) (indent : Nat) : Nat → Lines → Source → Option (Lines × Source)
  | 0, _, _ => none
  | _ + 1, ls, [] => some (ls, [])
  | fuel + 1, ls, c :: rest =>
    if c.column ≠ indent then some (ls, c :: rest)
    else
      let s : Source := c :: rest
      let blank := isBlank c.char
      let gap := between folded (ls.blankFirst || blank) ls.lastBreak ls.emptyBreaks
      let line := s.textWhile fun c => !isBreak c
      let s := s.skipWhile fun c => !isBreak c
      let lastBreak := (s.take 1).map Cell.char
      match emptyLines? (some indent) 0 (s.drop 1) with
      | none => none
      | some (emptyBreaks, _, s) =>
        lines? folded indent fuel ⟨ls.text ++ gap ++ line, lastBreak, emptyBreaks, blank⟩ s

/-- The line breaks at the end that are kept. -/
def tail (k : Chomping) (ls : Lines) : List Char :=
  match k with
  | .strip => []
  | .clip => ls.lastBreak
  | .keep => ls.lastBreak ++ ls.emptyBreaks

/--
The scalar whose indicator has been read, and what follows it; `margin` is the
least column that is inside of what is around it.
-/
def read? (folded : Bool) (margin : Nat) (s : Source) : Option (List Char × Source) := do
  let (header, s) ← header? s
  let given := header.increment.map fun n => (margin - 1) + n
  let (emptyBreaks, widest, s) ← emptyLines? given 0 s
  let indent := given.getD (max widest (max margin 1))
  let (ls, s) ← lines? folded indent (s.length + 1) { emptyBreaks := emptyBreaks } s
  return (ls.text ++ tail header.chomping ls, s)

end ProxyMaps.Yaml.Block
