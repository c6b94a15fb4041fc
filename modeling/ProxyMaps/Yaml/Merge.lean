/-
Merging: the pairs of other mappings that a mapping takes over through its
merge keys. They come in front of its own pairs, so that its own values stand.

A mapping that is merged becomes what it is with all merges made, in its own
place as well: whoever refers to it finds it so from then on.
-/
import ProxyMaps.Yaml.Node

namespace ProxyMaps.Yaml.Document

/-- Whether a pair names mappings to merge. -/
def isMerge (d : Document) (p : Nat × Nat) : Bool := (d.node p.1).tag = .merge

/-- The document with other pairs in a mapping. -/
def setPairs (d : Document) (i : Nat) (pairs : List (Nat × Nat)) : Document :=
  d.modify i fun n => { n with body := .mapping pairs }

/-- The document where the keys of some pairs are texts if they are keys of values. -/
def nameKeys (d : Document) (pairs : List (Nat × Nat)) : Document :=
  pairs.foldl (fun d p => d.modify p.1 fun n =>
    if n.tag = .value then { n with tag := .text } else n) d

/-- The mappings that a node stands for behind a merge key: itself, or its items. -/
def sources? (d : Document) (i : Nat) : Option (List Nat) :=
  match (d.node i).body with
  | .scalar _ => none
  | .sequence items => some items
  | .mapping _ => some [i]

/-- Merges one more mapping, and puts its pairs in front of those that have been found. -/
def findPairs? (merge? : Nat → Document → Option Document)
    (found : List (List (Nat × Nat)) × Document) (i : Nat) :
    Option (List (List (Nat × Nat)) × Document) := do
  let d ← merge? i found.2
  return ((← (d.node i).pairs?) :: found.1, d)

/--
The document with all merges of a mapping made, behind pairs that have been
taken over already. A merge key is taken out of its mapping before the mappings
that it names are merged, so a fuel greater than the number of merge keys never
runs out, also where mappings merge each other.
-/
def merge? : Nat → List (Nat × Nat) → Nat → Document → Option Document
  | 0, _, _, _ => none
  | fuel + 1, taken, i, d => do
    let pairs ← (d.node i).pairs?
    match pairs.find? d.isMerge with
    | none => return (d.nameKeys pairs).setPairs i (taken ++ pairs)
    | some p =>
      let d := d.setPairs i (pairs.eraseP d.isMerge)
      -- of several mappings the first one counts, so its pairs come last
      let (found, d) ← (← d.sources? p.2).foldlM (findPairs? (merge? fuel [])) ([], d)
      merge? fuel (taken ++ found.flatten) i d

/-- The number of pairs in all mappings. -/
def pairCount (d : Document) : Nat :=
  d.nodes.foldl (fun n node => n + (node.pairs?.getD []).length) 0

/-- The document with all merges of a mapping made. -/
def mergeInto? (d : Document) (i : Nat) : Option Document := merge? (d.pairCount + 1) [] i d

end ProxyMaps.Yaml.Document
