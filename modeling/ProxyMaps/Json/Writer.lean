/-
Writing JSON text, either without white space or laid out over lines with two
blanks for each level and the fields of objects in the order of their names.
-/
import ProxyMaps.Json
import ProxyMaps.Decimal.Shortest
import ProxyMaps.Text.Quoted

namespace ProxyMaps.Json

open Decimal (Binary64)

namespace Writer

/-- Why a document is not written. -/
inductive Fault where
  /-- An integer has no 64-bit form. -/
  | integerTooLarge
  /-- The document is nested too deeply. -/
  | tooDeep
  deriving DecidableEq, Repr

/-- The wording of a fault. -/
def Fault.message : Fault → String
  | integerTooLarge => "Integer exceeds 64-bit range"
  | tooDeep => "Recursion limit reached"

/-- Documents may be nested this deeply. -/
def maxDepth : Nat := 254

/-- A character of a string. -/
def escape (c : Char) : List Char :=
  if c = '"' then ['\\', '"']
  else if c = '\\' then ['\\', '\\']
  else if c = '\x08' then ['\\', 'b']
  else if c = '\x0c' then ['\\', 'f']
  else if c = '\n' then ['\\', 'n']
  else if c = '\r' then ['\\', 'r']
  else if c = '\t' then ['\\', 't']
  else if c.toNat < 0x20 then '\\' :: 'u' :: Text.Quoted.hex 4 c.toNat
  else [c]

/-- A string with its quotes. -/
def string (s : String) : List Char := '"' :: s.toList.flatMap escape ++ ['"']

/-- A number that is not an integer; one that JSON cannot write becomes `null`. -/
def real : Binary64 → List Char
  | .finite s n => Decimal.Shortest.render Decimal.Shortest.json (.finite s n)
  | _ => ['n', 'u', 'l', 'l']

/-- The ways to lay a document out. -/
inductive Layout where
  /-- Without white space, the fields as they stand. -/
  | compact
  /-- Over lines, the fields in the order of their names. -/
  | pretty
  deriving DecidableEq, Repr

/-- What separates items at a level, and what stands inside the brackets. -/
def lineBreak : Layout → Nat → List Char
  | .compact, _ => []
  | .pretty, level => '\n' :: List.replicate (2 * level) ' '

/-- What stands between a name and its value. -/
def colon : Layout → List Char
  | .compact => [':']
  | .pretty => [':', ' ']

/-- Pieces between brackets; `level` is that of the brackets. -/
def bracket (layout : Layout) (level : Nat) (first last : Char) : List (List Char) → List Char
  | [] => [first, last]
  | pieces =>
    let inner := List.intercalate (',' :: lineBreak layout (level + 1)) pieces
    first :: lineBreak layout (level + 1) ++ inner ++ lineBreak layout level ++ [last]

/-- The fields in the order in which the layout writes them. -/
def arrange {α : Type} (layout : Layout) (fields : List (String × α)) : List (String × α) :=
  match layout with
  | .compact => fields
  | .pretty => fields.mergeSort fun a b => a.1 ≤ b.1

mutual

/-- A document at a nesting level. -/
def value (layout : Layout) (level : Nat) : Json → Except Fault (List Char)
  | null => .ok ['n', 'u', 'l', 'l']
  | bool true => .ok ['t', 'r', 'u', 'e']
  | bool false => .ok ['f', 'a', 'l', 's', 'e']
  | int n => if fits64 n then .ok (toString n).toList else .error .integerTooLarge
  | .real x => .ok (real x)
  | text s => .ok (string s)
  | list xs =>
    if maxDepth ≤ level then .error .tooDeep
    else (items layout (level + 1) xs).map (bracket layout level '[' ']')
  | object fs =>
    if maxDepth ≤ level then .error .tooDeep
    else do
      let written ← fields layout (level + 1) fs
      let pieces := (arrange layout written).map fun f => string f.1 ++ colon layout ++ f.2
      return bracket layout level '\x7b' '\x7d' pieces

/-- The items of a list. -/
def items (layout : Layout) (level : Nat) : List Json → Except Fault (List (List Char))
  | [] => .ok []
  | x :: xs => do
    let x ← value layout level x
    let xs ← items layout level xs
    return x :: xs

/-- The fields of an object, each with its name. -/
def fields (layout : Layout) (level : Nat) :
    List (String × Json) → Except Fault (List (String × List Char))
  | [] => .ok []
  | (name, x) :: fs => do
    let x ← value layout level x
    let fs ← fields layout level fs
    return (name, x) :: fs

end

end Writer

/-- The text of a document. -/
def write (layout : Writer.Layout) (v : Json) : Except Writer.Fault String :=
  (Writer.value layout 0 v).map String.ofList

end ProxyMaps.Json
