/-
Signatures of functions that are called with arguments by position, and the
numbers of arguments that they take.
-/

namespace ProxyMaps.Helper

/-- How arguments reach a parameter. -/
inductive ParameterKind where
  /-- By position alone. -/
  | positionalOnly
  /-- By position or by name. -/
  | positional
  /-- All arguments by position that are left. -/
  | varPositional
  /-- By name alone. -/
  | keywordOnly
  /-- All arguments by name that are left. -/
  | varKeyword
  deriving DecidableEq, Repr

/-- A parameter of a function. -/
structure Parameter where
  name : String
  kind : ParameterKind
  hasDefault : Bool
  deriving DecidableEq, Repr

/-- The parameters of a function, in order. -/
abbrev Signature := List Parameter

/-- The numbers of arguments that a function takes; without `most` there is no upper limit. -/
structure Arity where
  least : Nat
  most : Option Nat
  deriving DecidableEq, Repr

namespace Arity

/-- Whether a function takes a number of arguments. -/
def accepts (a : Arity) (n : Int) : Bool :=
  a.least ≤ n &&
    match a.most with
    | some most => n ≤ most
    | none => true

/-- The arity with one more parameter; one that only a name can reach needs a default. -/
def add (a : Arity) (p : Parameter) : Except Parameter Arity :=
  match p.kind with
  | .varPositional => .ok { a with most := none }
  | .positionalOnly | .positional =>
    .ok ⟨if p.hasDefault then a.least else a.least + 1, a.most.map (· + 1)⟩
  | .keywordOnly | .varKeyword => if p.hasDefault then .ok a else .error p

/-- The arity with some more parameters, or the first one that needs a default and has none. -/
def addAll (a : Arity) : Signature → Except Parameter Arity
  | [] => .ok a
  | p :: rest =>
    match a.add p with
    | .ok a => a.addAll rest
    | .error p => .error p

/-- The arity of a signature, or the first parameter that keeps it from being called. -/
def ofSignature (s : Signature) : Except Parameter Arity := addAll ⟨0, some 0⟩ s

end Arity

end ProxyMaps.Helper
