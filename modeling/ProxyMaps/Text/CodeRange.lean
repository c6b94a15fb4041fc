/-
Sets of code points written as lists of ranges, the form in which the
character classes of this library are tabulated.
-/

namespace ProxyMaps.Text

/-- A range of code points, both ends included. -/
structure CodeRange where
  first : Nat
  last : Nat
  deriving DecidableEq, Repr

namespace CodeRange

/-- Whether a code point lies in the range. -/
def contains (r : CodeRange) (n : Nat) : Bool := r.first ≤ n && n ≤ r.last

/-- Whether a code point lies in one of the ranges. -/
def anyContains (rs : List CodeRange) (n : Nat) : Bool := rs.any fun r => r.contains n

/-- The ranges of a list of pairs of ends. -/
def ofPairs (ps : List (Nat × Nat)) : List CodeRange := ps.map fun p => ⟨p.1, p.2⟩

end CodeRange

end ProxyMaps.Text
