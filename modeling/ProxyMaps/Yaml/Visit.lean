/-
Reading a document, node by node. What is looked at, in order, are its visits,
and the first of them with a fault decides what is wrong with the document.

A collection is found when it is first referred to, and its parts are looked at
when all of the collections that were found before it are done. A node is looked
at once, with the tag and the text that it has then: merges that were made
before may have changed them.
-/
import ProxyMaps.Yaml.Content
import ProxyMaps.Yaml.Merge

namespace ProxyMaps.Yaml

/-- The text of a node that a scalar is read from. -/
inductive Spelling where
  /-- The node is a scalar. -/
  | own (text : String)
  /-- The node is a mapping, and the text is that of the node at its key of values. -/
  | lent (text : String)
  /-- There is no text. -/
  | missing
  /-- The node is a mapping, and what is at its key of values leads back to it. -/
  | endless
  deriving DecidableEq, Repr

/-- The value that is read with the tag of a scalar. -/
def Spelling.read (tag : Tag) : Spelling → Except Fault Value
  | own s => Content.ofText tag s
  | lent s => if tag = .moment then .error .notText else Content.ofText tag s
  | missing => .error .malformed
  | endless => .error .endless

/-- What is looked at in a document. -/
inductive Visit where
  /-- A node whose tag does not ask for a collection. -/
  | scalar (tag : Tag) (spelling : Spelling)
  /-- What must not be where it is: a collection that is a key, or that is another kind of
  collection than its tag asks for, or a merge of what is no mapping. -/
  | misplaced
  deriving DecidableEq, Repr

namespace Visit

/-- What a visit comes to. -/
def read : Visit → Except Fault Value
  | scalar tag spelling => if tag.isScalar then spelling.read tag else .error .malformed
  | misplaced => .error .malformed

/-- The fault that a visit finds. -/
def fault? (v : Visit) : Option Fault :=
  match v.read with
  | .ok _ => none
  | .error f => some f

/-- Whether a visit finds a fault. -/
def fails (v : Visit) : Bool := v.fault?.isSome

end Visit

/-- A scalar that has been read. -/
structure Scalar where
  value : Value
  /-- What is not a number equals nothing but itself: the node that it was read from, or none if
  it is the one that all texts share which are the word for it. -/
  origin : Option Nat

/-- What is known while a document is read. -/
structure Reader where
  /-- The document, as far as merges have been made. -/
  document : Document
  /-- The scalars that have been read, by their nodes. -/
  scalars : List (Nat × Scalar) := []
  /-- The collections that have been found. -/
  found : List Nat := []
  /-- Those of them whose parts have not been looked at, in order. -/
  waiting : List Nat := []

namespace Document

/-- The text that a mapping is lent, along keys of values. -/
def lentText (d : Document) : Nat → Nat → Spelling
  | 0, _ => .endless
  | fuel + 1, i =>
    match (d.node i).body with
    | .scalar text => .lent text
    | .sequence _ => .missing
    | .mapping pairs =>
      match pairs.find? fun p => (d.node p.1).tag = .value with
      | some p => lentText d fuel p.2
      | none => .missing

/-- The text of a node. A way along more nodes than there are has no end. -/
def spelling (d : Document) (i : Nat) : Spelling :=
  match (d.node i).body with
  | .scalar text => .own text
  | _ => d.lentText (d.nodes.size + 1) i

end Document

namespace Reader

/-- The scalar of a node, if it has been read. -/
def scalar? (r : Reader) (i : Nat) : Option Scalar :=
  (r.scalars.find? fun s => s.1 = i).map Prod.snd

/-- Looks at a node, unless that has been done. -/
def look (i : Nat) : StateM Reader (List Visit) := fun r =>
  if r.found.contains i || (r.scalar? i).isSome then ([], r)
  else
    let tag := (r.document.node i).tag
    if tag.isCollection then
      ([], { r with found := i :: r.found, waiting := r.waiting ++ [i] })
    else
      let spelling := r.document.spelling i
      let shared := match spelling with
        | .own s | .lent s => Content.isNanWord s
        | _ => false
      let v := Visit.scalar tag spelling
      let s : Scalar := ⟨v.read.toOption.getD .null, if shared then none else some i⟩
      ([v], { r with scalars := (i, s) :: r.scalars })

/-- Looks at a key and a value; a key is no collection. -/
def lookPair (p : Nat × Nat) : StateM Reader (List Visit) := do
  let key ← look p.1
  let isCollection := ((← get).document.node p.1).tag.isCollection
  let value ← look p.2
  return key ++ (if isCollection then [.misplaced] else []) ++ value

/-- Looks at an item of a list of pairs, which is a mapping with one pair. -/
def lookItem (i : Nat) : StateM Reader (List Visit) := do
  match ((← get).document.node i).pairs? with
  | some [p] => return (← look p.1) ++ (← look p.2)
  | _ => return [.misplaced]

/-- Looks at the parts of a collection. -/
def lookInto (i : Nat) : StateM Reader (List Visit) := do
  let d := (← get).document
  match (d.node i).tag, (d.node i).body with
  | .sequence, .sequence items => return (← items.mapM look).flatten
  | .orderedPairs, .sequence items | .pairs, .sequence items =>
    return (← items.mapM lookItem).flatten
  | .mapping, .mapping _ | .set, .mapping _ =>
    match d.mergeInto? i with
    | none => return [.misplaced]
    | some d =>
      modify fun r => { r with document := d }
      return (← ((d.node i).pairs?.getD []).mapM lookPair).flatten
  | _, _ => return [.misplaced]

/-- Looks into the collections that are waiting, and those that are found on the way. -/
def lookOn : Nat → StateM Reader (List Visit)
  | 0 => return []
  | fuel + 1 => do
    match (← get).waiting with
    | [] => return []
    | i :: rest =>
      modify fun r => { r with waiting := rest }
      return (← lookInto i) ++ (← lookOn fuel)

end Reader

namespace Document

/-- The visits of a document, and what is known behind them. Every collection waits once. -/
def reading (d : Document) : List Visit × Reader :=
  StateT.run (m := Id) (do return (← Reader.look d.root) ++ (← Reader.lookOn d.nodes.size))
    { document := d }

/-- What is looked at in a document, in order. -/
def visits (d : Document) : List Visit := d.reading.1

end Document

end ProxyMaps.Yaml
