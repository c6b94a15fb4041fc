/-
The documents that a list of tokens spells. `Compose` is a reader that takes
tokens from the front and fails where the next one has no place in the
grammar.

The readers recurse on a fuel that `Document.next` computes from the number
of tokens; a round of three calls takes a token at least, so it never runs
out.
-/
import ProxyMaps.Yaml.Node
import ProxyMaps.Yaml.Token

namespace ProxyMaps.Yaml

/-- What the reader of a document knows. -/
structure Composing where
  tokens : List Token
  /-- The short names for the beginnings of tags. -/
  handles : List (String × String)
  /-- The nodes so far. -/
  nodes : Array Node := #[]
  /-- The numbers of the nodes with anchors. -/
  anchors : List (String × Nat) := []

/-- A reader of tokens. -/
abbrev Compose := StateT Composing Option

namespace Compose

/-- The next token. -/
def peek : Compose Token := do return ((← get).tokens.head?).getD .unreadable

/-- Takes the next token. -/
def skip : Compose Unit := modify fun st => { st with tokens := st.tokens.drop 1 }

/-- Adds a node, which gets the next number. -/
def add (node : Node) : Compose Nat := fun st =>
  some (st.nodes.size, { st with nodes := st.nodes.push node })

/-- Gives a collection its parts. -/
def fill (i : Nat) (body : Body) : Compose Unit :=
  modify fun st => { st with nodes := st.nodes.modify i fun n => { n with body := body } }

/-- Adds a node under a name, if it has one; a name is given once. -/
def addAnchored (name : Option String) (node : Node) : Compose Nat := do
  if (← get).anchors.any fun a => some a.1 = name then failure
  let i ← add node
  if let some name := name then modify fun st => { st with anchors := (name, i) :: st.anchors }
  return i

/-- The node of a name. -/
def anchored (name : String) : Compose Nat := do
  match (← get).anchors.find? fun a => a.1 = name with
  | some a => return a.2
  | none => failure

/-- The properties of a node. -/
structure Properties where
  anchor : Option String := none
  /-- The tag, written out in full. -/
  tag : Option String := none

/-- The full text of a tag. -/
def fullTag (handle suffix : String) : Compose String := do
  if handle.isEmpty then return suffix
  else
    match (← get).handles.find? fun h => h.1 = handle with
    | some h => return h.2 ++ suffix
    | none => failure

/-- An anchor, if one stands here. -/
def anchor? : Compose (Option String) := do
  match ← peek with
  | .anchor name => skip; return some name
  | _ => return none

/-- A tag, if one stands here. -/
def tag? : Compose (Option String) := do
  match ← peek with
  | .tag handle suffix => skip; return some (← fullTag handle suffix)
  | _ => return none

/-- The properties that stand here: an anchor and a tag in either order. -/
def properties : Compose Properties := do
  match ← anchor? with
  | some name => return ⟨some name, ← tag?⟩
  | none =>
    match ← tag? with
    | some t => return ⟨← anchor?, some t⟩
    | none => return {}

/-- The tag that asks for the tag that a plain scalar would have. -/
def plainTag : String := "!"

/-- The tag of a scalar. -/
def scalarTag (tag : Option String) (text : String) (isPlain : Bool) : Tag :=
  match tag with
  | some t => if t = plainTag then Tag.ofPlain text else Tag.ofText t
  | none => if isPlain then Tag.ofPlain text else .text

/-- The tag of a node that is missing behind its properties. -/
def missingTag (tag : Option String) : Tag :=
  match tag with
  | some t => if t = plainTag then .text else Tag.ofText t
  | none => .null

/-- The tag of a collection. -/
def collectionTag (tag : Option String) (default : Tag) : Tag :=
  match tag with
  | some t => if t = plainTag then default else Tag.ofText t
  | none => default

/-- A sequence with its properties; its anchor is known inside of it. -/
def sequence (p : Properties) (items : Compose (List Nat)) : Compose Nat := do
  let i ← addAnchored p.anchor ⟨collectionTag p.tag .sequence, .sequence []⟩
  fill i (.sequence (← items))
  return i

/-- A mapping with its properties; its anchor is known inside of it. -/
def mapping (p : Properties) (pairs : Compose (List (Nat × Nat))) : Compose Nat := do
  let i ← addAnchored p.anchor ⟨collectionTag p.tag .mapping, .mapping []⟩
  fill i (.mapping (← pairs))
  return i

mutual

/-- The node here. Block collections are possible where `block` says so, and a sequence that is
not indented where `indentless` does. -/
def node (block indentless : Bool) : Nat → Compose Nat
  | 0 => failure
  | fuel + 1 => do
    match ← peek with
    | .alias name => skip; anchored name
    | _ =>
      let p ← properties
      match ← peek with
      | .scalar text isPlain =>
        skip
        addAnchored p.anchor ⟨scalarTag p.tag text isPlain, .scalar text⟩
      | .flowSequenceStart => skip; sequence p (flowItems true fuel)
      | .flowMappingStart => skip; mapping p (flowPairs true fuel)
      | t =>
        if indentless && t = .blockEntry then sequence p (indentlessItems fuel)
        else if block && t = .blockSequenceStart then do skip; sequence p (blockItems fuel)
        else if block && t = .blockMappingStart then do skip; mapping p (blockPairs fuel)
        else if p.anchor.isSome || p.tag.isSome then
          addAnchored p.anchor ⟨missingTag p.tag, .scalar ""⟩
        else failure

/-- The node here, or the empty one if the next token is one of those that end it. -/
def nodeUnless (ends : List Token) (block indentless : Bool) : Nat → Compose Nat
  | 0 => failure
  | fuel + 1 => do
    if ends.contains (← peek) then add .empty else node block indentless fuel

/-- The items of a block sequence. -/
def blockItems : Nat → Compose (List Nat)
  | 0 => failure
  | fuel + 1 => do
    match ← peek with
    | .blockEntry =>
      skip
      let item ← nodeUnless [.blockEntry, .blockEnd] true false fuel
      return item :: (← blockItems fuel)
    | .blockEnd => skip; return []
    | _ => failure

/-- The items of a block sequence that is not indented inside of a mapping. -/
def indentlessItems : Nat → Compose (List Nat)
  | 0 => failure
  | fuel + 1 => do
    match ← peek with
    | .blockEntry =>
      skip
      let item ← nodeUnless [.blockEntry, .key, .value, .blockEnd] true false fuel
      return item :: (← indentlessItems fuel)
    | _ => return []

/-- The pairs of a block mapping. -/
def blockPairs : Nat → Compose (List (Nat × Nat))
  | 0 => failure
  | fuel + 1 => do
    match ← peek with
    | .key =>
      skip
      let key ← nodeUnless [.key, .value, .blockEnd] true true fuel
      let value ← valueAfter [.key, .value, .blockEnd] true fuel
      return (key, value) :: (← blockPairs fuel)
    | .blockEnd => skip; return []
    | _ => failure

/-- The node after a colon, or the empty one if there is no colon or no node. -/
def valueAfter (ends : List Token) (block : Bool) : Nat → Compose Nat
  | 0 => failure
  | fuel + 1 => do
    if (← peek) = .value then
      skip
      nodeUnless ends block block fuel
    else add .empty

/-- The items of a flow sequence; an item may be a pair, which is a mapping of its own. -/
def flowItems (first : Bool) : Nat → Compose (List Nat)
  | 0 => failure
  | fuel + 1 => do
    if (← peek) ≠ .flowSequenceEnd && !first then
      if (← peek) = .flowEntry then skip else failure
    match ← peek with
    | .flowSequenceEnd => skip; return []
    | .key =>
      skip
      let item ← mapping {} (flowPair fuel)
      return item :: (← flowItems false fuel)
    | _ =>
      let item ← node false false fuel
      return item :: (← flowItems false fuel)

/-- The pair of a flow sequence. Where no key follows the mark of a key, the token there is
taken. -/
def flowPair : Nat → Compose (List (Nat × Nat))
  | 0 => failure
  | fuel + 1 => do
    let key ←
      if [Token.value, .flowEntry, .flowSequenceEnd].contains (← peek) then do
        skip
        add .empty
      else node false false fuel
    let value ← valueAfter [.flowEntry, .flowSequenceEnd] false fuel
    return [(key, value)]

/-- The pairs of a flow mapping; a node alone is a key without a value. -/
def flowPairs (first : Bool) : Nat → Compose (List (Nat × Nat))
  | 0 => failure
  | fuel + 1 => do
    if (← peek) ≠ .flowMappingEnd && !first then
      if (← peek) = .flowEntry then skip else failure
    match ← peek with
    | .flowMappingEnd => skip; return []
    | .key =>
      skip
      let key ← nodeUnless [.value, .flowEntry, .flowMappingEnd] false false fuel
      let value ← valueAfter [.flowEntry, .flowMappingEnd] false fuel
      return (key, value) :: (← flowPairs false fuel)
    | _ =>
      let key ← node false false fuel
      let value ← add .empty
      return (key, value) :: (← flowPairs false fuel)

end

end Compose

namespace Document

/-- The short names that every document has. -/
def defaultHandles : List (String × String) := [("!", "!"), ("!!", Tag.start)]

/-- The version and the short names that the directives in front of a document give, and the
tokens after them. -/
def directives? (hasVersion : Bool) (handles : List (String × String)) :
    List Token → Option (List (String × String) × List Token)
  | .version major minor :: rest =>
    if hasVersion || major ≠ 1 || !(minor = 1 || minor = 2) then none
    else directives? true handles rest
  | .tagHandle handle start :: rest =>
    if handles.any fun h => h.1 = handle then none
    else directives? hasVersion (handles ++ [(handle, start)]) rest
  | tokens => some (handles ++ defaultHandles, tokens)

/-- Whether a document that has been started with a mark has no node in front of a token. -/
def isEmptyBefore : Token → Bool
  | .version _ _ | .tagHandle _ _ | .documentStart | .documentEnd | .textEnd => true
  | _ => false

/-- The document at the front of some tokens, after its directives, and the tokens after it. -/
def read? (handles : List (String × String)) (started : Bool) (tokens : List Token) :
    Option (Document × List Token) := do
  let body : Compose Nat := do
    if started && isEmptyBefore (← Compose.peek) then Compose.add .empty
    else Compose.node true false (3 * tokens.length + 3)
  let (root, st) ← body.run { tokens := tokens, handles := handles }
  let document : Document := ⟨st.nodes, root⟩
  match st.tokens with
  | [] | .unreadable :: _ => none
  | .documentEnd :: rest => some (document, rest)
  | rest => some (document, rest)

/-- What stands at the front of some tokens. -/
inductive Next where
  | nothing
  | malformed
  | document (d : Document) (rest : List Token)

/-- The next document. Only the first one of a text may begin without a mark. -/
def next (first : Bool) (tokens : List Token) : Next :=
  let tokens := if first then tokens else tokens.dropWhile (· = .documentEnd)
  match tokens with
  | [] => .malformed
  | .textEnd :: _ => .nothing
  | t :: _ =>
    let found :=
      if first && !(isEmptyBefore t && t ≠ .documentEnd) then read? defaultHandles false tokens
      else
        match directives? false [] tokens with
        | some (handles, .documentStart :: rest) => read? handles true rest
        | _ => none
    match found with
    | some (d, rest) => .document d rest
    | none => .malformed

end Document

end ProxyMaps.Yaml
