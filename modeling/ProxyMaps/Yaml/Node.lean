/-
The nodes of a document.

Every node has a number, and a collection holds the numbers of its parts. So an
alias is the number of the node that it refers to, be it inside of that node or
not, and what is done to a node is done to it wherever it is referred to.
-/
import ProxyMaps.Yaml.Tag

namespace ProxyMaps.Yaml

/-- What a node holds. -/
inductive Body where
  | scalar (text : String)
  | sequence (items : List Nat)
  | mapping (pairs : List (Nat × Nat))
  deriving DecidableEq, Repr

/-- A node of a document. -/
structure Node where
  tag : Tag
  body : Body
  deriving DecidableEq, Repr

namespace Node

/-- The node where a document says nothing. -/
def empty : Node := ⟨.null, .scalar ""⟩

/-- The pairs of a mapping. -/
def pairs? (n : Node) : Option (List (Nat × Nat)) :=
  match n.body with
  | .mapping pairs => some pairs
  | _ => none

end Node

/-- A document: its nodes by their numbers, and the number of the node that it is. -/
structure Document where
  nodes : Array Node
  root : Nat
  deriving Repr

namespace Document

/-- The node of a number. -/
def node (d : Document) (i : Nat) : Node := d.nodes.getD i .empty

/-- The document with a change to the node of a number. -/
def modify (d : Document) (i : Nat) (change : Node → Node) : Document :=
  { d with nodes := d.nodes.modify i change }

end Document

end ProxyMaps.Yaml
