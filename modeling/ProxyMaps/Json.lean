/-
JSON documents: the tree, and the two restrictions that programs put on it.
Integers in the tree are exact; `narrow?` is the view of a reader that keeps
64 bits.
-/
import ProxyMaps.Decimal.Binary64

namespace ProxyMaps

open Decimal (Binary64)

/-- A JSON document. The fields of an object are in the order of the text and may repeat. -/
inductive Json where
  | null
  | bool (b : Bool)
  | int (n : Int)
  | real (x : Binary64)
  | text (s : String)
  | list (items : List Json)
  | object (fields : List (String × Json))
  deriving Inhabited

namespace Json

/-- Whether an integer has a 64-bit form, signed or unsigned. -/
def fits64 (n : Int) : Bool := -0x8000000000000000 ≤ n && n ≤ 0xffffffffffffffff

mutual

/--
The document with integers beyond 64 bits turned into floating point numbers,
or nothing if a number is too large for that.
-/
def narrow? : Json → Option Json
  | null => some null
  | bool b => some (bool b)
  | int n =>
    if fits64 n then some (int n)
    else
      match Binary64.ofInt n with
      | .finite s m => some (real (.finite s m))
      | _ => none
  | real (.finite s m) => some (real (.finite s m))
  | real _ => none
  | text s => some (text s)
  | list items => (narrowItems? items).map list
  | object fields => (narrowFields? fields).map object

/-- `narrow?` on every item. -/
def narrowItems? : List Json → Option (List Json)
  | [] => some []
  | item :: rest => do return (← narrow? item) :: (← narrowItems? rest)

/-- `narrow?` on every field. -/
def narrowFields? : List (String × Json) → Option (List (String × Json))
  | [] => some []
  | (name, item) :: rest => do return (name, ← narrow? item) :: (← narrowFields? rest)

end

end Json

end ProxyMaps
