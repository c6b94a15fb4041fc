/-
The values of documents.

A document has a value if none of its visits finds a fault. The value is a
finite tree: a collection inside of itself is a reference to its mark, which is
the number of its node.
-/
import ProxyMaps.Yaml.Node.OfTokens
import ProxyMaps.Yaml.Token.OfSource
import ProxyMaps.Yaml.Visit

namespace ProxyMaps.Yaml

namespace Scalar

/-- Whether two scalars are one key. -/
def sameKey (a b : Scalar) : Bool :=
  match a.value, b.value with
  | .float .nan, .float .nan => a.origin = b.origin
  | v, w => v.sameKey w

/-- Entries with one more: a known key keeps its place and its spelling. -/
def put (k : Scalar) (v : Value) : List (Scalar × Value) → List (Scalar × Value)
  | [] => [(k, v)]
  | e :: rest => if e.1.sameKey k then (e.1, v) :: rest else e :: put k v rest

end Scalar

namespace Reader

/-- A value, and the collections around it that it refers to. -/
structure Built where
  value : Value
  refers : List Nat := []

/-- What is known of some collections: their values, where those refer to nothing around them. -/
abbrev Known := List (Nat × Value)

/-- A computation that learns values of collections. -/
abbrev Build := StateM Known

/-- The value of a collection, once its parts are known. -/
def close (i : Nat) (value : Value) (refers : List Nat) : Build Built := do
  let left := refers.filter (· ≠ i)
  let value := if refers.isEmpty then value else .marked i value
  if left.isEmpty then modify ((i, value) :: ·)
  return ⟨value, left⟩

/-- The entries of a mapping with some keys and values, those of keys that are no scalars left
out. -/
def entries (r : Reader) (pairs : List (Nat × Value)) : List (Scalar × Value) :=
  (pairs.filterMap fun p => (r.scalar? p.1).map fun k => (k, p.2)).foldl
    (fun es e => Scalar.put e.1 e.2 es) []

/-- The value of a node, inside of the collections `around`; no way enters a collection twice. -/
def build (r : Reader) : Nat → List Nat → Nat → Build Built
  | 0, _, _ => return { value := .null }
  | fuel + 1, around, i => do
    let part := r.build fuel (i :: around)
    let n := r.document.node i
    if around.contains i then return ⟨.again i, [i]⟩
    else
      match r.scalar? i, (← get).find? fun k => k.1 = i with
      | some s, _ => return { value := s.value }
      | none, some k => return { value := k.2 }
      | none, none =>
        match n.tag, n.body with
        | .sequence, .sequence items =>
          let vs ← items.mapM part
          close i (.list (vs.map Built.value)) (vs.flatMap Built.refers)
        | _, .sequence items =>
          let pairs := items.flatMap fun j => (r.document.node j).pairs?.getD []
          let vs ← pairs.mapM fun p => do return (← part p.1, ← part p.2)
          close i (.list (vs.map fun p => .pair p.1.value p.2.value))
            (vs.flatMap fun p => p.1.refers ++ p.2.refers)
        | .set, .mapping pairs =>
          let es := r.entries (pairs.map fun p => (p.1, .null))
          close i (.set (es.map fun e => e.1.value)) []
        | _, .mapping pairs =>
          let vs ← pairs.mapM fun p => do return (p.1, ← part p.2)
          let es := r.entries (vs.map fun p => (p.1, p.2.value))
          close i (.mapping (es.map fun e => (e.1.value, e.2))) (vs.flatMap fun p => p.2.refers)
        | _, .scalar _ => return { value := .null }

end Reader

namespace Document

/-- The value of a document, or the fault that the first visit finds which finds one. -/
def value (d : Document) : Except Fault Value :=
  match d.visits.findSome? Visit.fault? with
  | some f => .error f
  | none => .ok ((d.reading.2.build (d.nodes.size + 2) [] d.root).run []).1.value

/-- The documents that some tokens spell, and whether these end behind the last one. -/
def spelled : Nat → Bool → List Token → List Document × Bool
  | 0, _, _ => ([], false)
  | fuel + 1, first, tokens =>
    match next first tokens with
    | .nothing => ([], true)
    | .malformed => ([], false)
    | .document d rest =>
      let (ds, ends) := spelled fuel false rest
      (d :: ds, ends)

end Document

/--
The documents of a text, up to the first place where it breaks the rules of the
language, and whether there is none. Every document takes a token.
-/
def documents (s : String) : List Document × Bool :=
  match Source.ofText? s with
  | none => ([], false)
  | some source =>
    let tokens := Token.ofSource source
    Document.spelled (tokens.length + 1) true tokens

/-- The values of the documents of a text. Each is read before the next one is looked for. -/
def read (s : String) : Except Fault (List Value) := do
  let vs ← (documents s).1.mapM Document.value
  if (documents s).2 then return vs else throw .malformed

end ProxyMaps.Yaml
