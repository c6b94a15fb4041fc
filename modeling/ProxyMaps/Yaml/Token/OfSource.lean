/-
The tokens of a source. What makes this more than cutting a text into pieces
is that a key of a mapping needs no mark of its own: only the colon behind it
shows that it was one. So the places where a key may have begun are
remembered, and a colon puts the key token, and perhaps the start of the
mapping, in front of what has been read since (`Scan.insertAt`).
-/
import ProxyMaps.Yaml.Scalar.Block
import ProxyMaps.Yaml.Scalar.Plain
import ProxyMaps.Yaml.Scalar.Quoted
import ProxyMaps.Yaml.Token.Directive

namespace ProxyMaps.Yaml

/-- A place where a key may have begun. -/
structure KeyStart where
  /-- Whether nothing but a key may begin there. -/
  required : Bool
  /-- The number of tokens in front of it. -/
  position : Nat
  cell : Cell
  deriving DecidableEq, Repr

namespace KeyStart

/-- A key has at most this many characters. -/
def maxLength : Nat := 1024

/-- Whether a colon at a place may end the key: on the same line, and not too far away. -/
def reaches (k : KeyStart) (c : Cell) : Bool :=
  k.cell.line = c.line && c.index ≤ k.cell.index + maxLength

end KeyStart

/-- The tokens that have been read, and what the rules of keys and of indentation need to know. -/
structure Scan where
  /-- The tokens, the last one first. -/
  tokens : List Token := []
  /-- The number of tokens. -/
  count : Nat := 0
  /-- The columns of the open block collections, the innermost first. -/
  columns : List Nat := []
  /-- Whether a key may begin here without a mark of its own. -/
  keyAllowed : Bool := true
  /-- The last place where a key may have begun in the innermost flow collection. -/
  key : Option KeyStart := none
  /-- The same for everything around that collection, the innermost first. -/
  outer : List (Option KeyStart) := []

namespace Scan

/-- Whether a flow collection is open. -/
def inFlow (st : Scan) : Bool := !st.outer.isEmpty

/-- The least column inside of the innermost block collection. -/
def margin (st : Scan) : Nat :=
  match st.columns with
  | [] => 0
  | column :: _ => column + 1

/-- One more token. -/
def emit (st : Scan) (t : Token) : Scan :=
  { st with tokens := t :: st.tokens, count := st.count + 1 }

/-- One more token behind the first `position` ones. -/
def insertAt (st : Scan) (position : Nat) (t : Token) : Scan :=
  let behind := st.count - position
  { st with
    tokens := st.tokens.take behind ++ t :: st.tokens.drop behind
    count := st.count + 1 }

/-- Closes the block collections whose columns pass a test, from the innermost on. -/
def closeBlocks (st : Scan) (p : Nat → Bool) : Scan :=
  if st.inFlow then st
  else
    let closed := st.columns.takeWhile p
    closed.foldl (fun st _ => st.emit .blockEnd) { st with columns := st.columns.drop closed.length }

/-- Opens a block collection at a column that is right of the innermost one, its token behind
`position` others. -/
def openBlock (st : Scan) (column position : Nat) (t : Token) : Scan :=
  if st.inFlow || column < st.margin then st
  else { st.insertAt position t with columns := column :: st.columns }

/-- Forgets the place where a key may have begun; a required key has to come. -/
def dropKey? (st : Scan) : Option Scan :=
  match st.key with
  | some k => if k.required then none else some { st with key := none }
  | none => some st

/-- Remembers that a key may begin here. -/
def saveKey? (st : Scan) (c : Cell) : Option Scan :=
  if st.keyAllowed then do
    let st ← st.dropKey?
    let required := !st.inFlow && st.columns.head? = some c.column
    return { st with key := some ⟨required, st.count, c⟩ }
  else some st

/-- Says whether a key may begin next. -/
def allowKey (st : Scan) (allowed : Bool) : Scan := { st with keyAllowed := allowed }

/-- A token that begins or ends a document, or a directive: everything open is closed. -/
def outermost? (st : Scan) : Option Scan := do
  let st ← (st.closeBlocks fun _ => true).dropKey?
  return st.allowKey false

/-- The start of a flow collection, which may be a key. -/
def openFlow? (st : Scan) (c : Cell) (t : Token) : Option Scan := do
  let st ← st.saveKey? c
  return { st.emit t with outer := st.key :: st.outer, key := none, keyAllowed := true }

/-- The end of a flow collection. -/
def closeFlow? (st : Scan) (t : Token) : Option Scan := do
  let st ← st.dropKey?
  let st := (st.emit t).allowKey false
  match st.outer with
  | [] => return st
  | key :: outer => return { st with key := key, outer := outer }

/-- The comma of a flow collection. -/
def flowEntry? (st : Scan) : Option Scan := do
  let st ← st.dropKey?
  return (st.emit .flowEntry).allowKey true

/-- The hyphen of a block sequence. -/
def blockEntry? (st : Scan) (c : Cell) : Option Scan := do
  if !st.inFlow && !st.keyAllowed then none
  else
    let st ← (st.openBlock c.column st.count .blockSequenceStart).dropKey?
    return (st.emit .blockEntry).allowKey true

/-- The question mark in front of a key. -/
def keyMark? (st : Scan) (c : Cell) : Option Scan := do
  if !st.inFlow && !st.keyAllowed then none
  else
    let st ← (st.openBlock c.column st.count .blockMappingStart).dropKey?
    return (st.emit .key).allowKey !st.inFlow

/-- The colon in front of a value, after a key that the colon itself reveals. -/
def valueOfKey (st : Scan) (k : KeyStart) : Scan :=
  let st := st.insertAt k.position .key
  let st := st.openBlock k.cell.column k.position .blockMappingStart
  ({ st with key := none }.emit .value).allowKey false

/-- The colon in front of a value, after a marked key or none. -/
def valueAlone? (st : Scan) (c : Cell) : Option Scan :=
  if !st.inFlow && !st.keyAllowed then none
  else
    let st := st.openBlock c.column st.count .blockMappingStart
    some ((st.emit .value).allowKey !st.inFlow)

/-- The colon in front of a value. -/
def valueMark? (st : Scan) (c : Cell) : Option Scan :=
  match st.key with
  | some k =>
    if k.reaches c then some (st.valueOfKey k)
    else if k.required then none
    else { st with key := none }.valueAlone? c
  | none => st.valueAlone? c

/-- The next place where a token begins, and whether a key may begin there. -/
def toToken (inFlow : Bool) (keyAllowed inComment : Bool) : Source → Bool × Source
  | [] => (keyAllowed, [])
  | c :: rest =>
    if isBreak c.char then toToken inFlow (keyAllowed || !inFlow) false rest
    else if inComment then toToken inFlow keyAllowed true rest
    else if c.char = ' ' || (c.char = '\t' && (inFlow || !keyAllowed)) ||
        (c.char = byteOrderMark && c.column = 0) then
      toToken inFlow keyAllowed false rest
    else if c.char = '#' then toToken inFlow keyAllowed true rest
    else (keyAllowed, c :: rest)

/-- A token that may be a key: `read` gives it with what follows it. -/
def keyLike? (st : Scan) (c : Cell) (read : Option (Token × Source)) : Option (Scan × Source) := do
  let st ← st.saveKey? c
  let (t, rest) ← read
  return ((st.emit t).allowKey false, rest)

/-- A scalar as a token. -/
def scalarToken (isPlain : Bool) (p : List Char × Source) : Token × Source :=
  (.scalar (String.ofList p.1) isPlain, p.2)

/-- A plain scalar, after which a key may begin if it ends at a line break. -/
def plainScalar? (st : Scan) (c : Cell) (s : Source) : Option (Scan × Source) := do
  let st ← st.saveKey? c
  let found ← Plain.read? st.inFlow st.margin s
  return ((st.emit (.scalar (String.ofList found.text) true)).allowKey found.beforeBreak, found.rest)

/-- A block scalar. -/
def blockScalar? (st : Scan) (folded : Bool) (s : Source) : Option (Scan × Source) := do
  let st ← st.dropKey?
  let (text, rest) ← Block.read? folded st.margin s
  return ((st.emit (.scalar (String.ofList text) false)).allowKey true, rest)

/-- A directive. -/
def directive? (st : Scan) (s : Source) : Option (Scan × Source) := do
  let st ← st.outermost?
  let (t, rest) ← Token.directive? s
  return (st.emit t, rest)

/-- The token that begins at the cell `c`, in front of `rest`. -/
def token? (st : Scan) (c : Cell) (rest : Source) : Option (Scan × Source) :=
  let s : Source := c :: rest
  let with? (after : Option Scan) : Option (Scan × Source) := after.map fun st => (st, rest)
  let blockOnly := !st.inFlow
  if c.column = 0 && c.char = '%' then st.directive? rest
  else if s.startsMark '-' then
    st.outermost?.map fun st => (st.emit .documentStart, s.drop 3)
  else if s.startsMark '.' then
    st.outermost?.map fun st => (st.emit .documentEnd, s.drop 3)
  else if c.char = '[' then with? (st.openFlow? c .flowSequenceStart)
  else if c.char = '\x7b' then with? (st.openFlow? c .flowMappingStart)
  else if c.char = ']' then with? (st.closeFlow? .flowSequenceEnd)
  else if c.char = '\x7d' then with? (st.closeFlow? .flowMappingEnd)
  else if c.char = ',' then with? st.flowEntry?
  else if c.char = '-' && Source.endsWord rest then with? (st.blockEntry? c)
  else if c.char = '?' && (st.inFlow || Source.endsWord rest) then with? (st.keyMark? c)
  else if c.char = ':' && (st.inFlow || Source.endsWord rest) then with? (st.valueMark? c)
  else if c.char = '*' then
    st.keyLike? c ((Token.name? rest).map fun p => (.alias p.1, p.2))
  else if c.char = '&' then
    st.keyLike? c ((Token.name? rest).map fun p => (.anchor p.1, p.2))
  else if c.char = '!' then st.keyLike? c (Token.tag? st.inFlow s)
  else if blockOnly && c.char = '|' then st.blockScalar? false rest
  else if blockOnly && c.char = '>' then st.blockScalar? true rest
  else if c.char = '\'' then
    st.keyLike? c ((Quoted.read? .single rest).map (scalarToken false))
  else if c.char = '"' then
    st.keyLike? c ((Quoted.read? .double rest).map (scalarToken false))
  else if Plain.starts st.inFlow s then st.plainScalar? c s
  else none

/--
The tokens from here to the end of the text, behind those already read. Every
round takes a character, so the fuel never runs out.
-/
def finish : Nat → Scan → Source → List Token
  | 0, st, _ => (.unreadable :: st.tokens).reverse
  | fuel + 1, st, s =>
    let (keyAllowed, s) := toToken st.inFlow st.keyAllowed false s
    let st := st.allowKey keyAllowed
    match s with
    | [] =>
      match st.outermost? with
      | some st => (.textEnd :: st.tokens).reverse
      | none => (.unreadable :: st.tokens).reverse
    | c :: rest =>
      let st := st.closeBlocks fun column => c.column < column
      match st.token? c rest with
      | some (st, s) => finish fuel st s
      | none => (.unreadable :: st.tokens).reverse

end Scan

/-- The tokens of a source. The last one says whether the text ends there or goes on without
tokens. -/
def Token.ofSource (s : Source) : List Token := Scan.finish (s.length + 1) {} s

end ProxyMaps.Yaml
