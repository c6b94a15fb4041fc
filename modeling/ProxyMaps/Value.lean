/-
Values that documents hold, with everything that a document may say in place
of a mapping, a list, a truth value, a number or a text.

A document may refer to a list or a mapping from inside itself. Such a
container is `marked` with a number, and `again` stands for it inside; so a
value is always a finite tree. Reading the parts of a marked container puts
the container itself in place of the references to it (`unfolded`).
-/
import ProxyMaps.Calendar
import ProxyMaps.Decimal.Binary64
import ProxyMaps.Json

namespace ProxyMaps

open Decimal (Binary64)

/-- A value of a document. -/
inductive Value where
  | null
  | bool (b : Bool)
  | int (n : Int)
  | float (x : Binary64)
  | text (s : String)
  | bytes (bs : List UInt8)
  | date (d : Date)
  | moment (m : Moment)
  | list (items : List Value)
  | pair (first second : Value)
  | set (members : List Value)
  /-- Entries in the order in which their keys first came; keys do not repeat. -/
  | mapping (entries : List (Value × Value))
  /-- A list or a mapping that refers to itself by its mark. -/
  | marked (mark : Nat) (container : Value)
  /-- The container with this mark, inside of it. -/
  | again (mark : Nat)
  deriving Inhabited

namespace Value

mutual

/-- The value with another one in place of `again mark`. -/
def replace (mark : Nat) (w : Value) : Value → Value
  | again m => if m = mark then w else again m
  | list items => list (replaceItems mark w items)
  | pair a b => pair (replace mark w a) (replace mark w b)
  | mapping entries => mapping (replaceEntries mark w entries)
  | marked m v => if m = mark then marked m v else marked m (replace mark w v)
  | v => v

/-- `replace` in every item. -/
def replaceItems (mark : Nat) (w : Value) : List Value → List Value
  | [] => []
  | v :: rest => replace mark w v :: replaceItems mark w rest

/-- `replace` in every value; a key never refers to a container. -/
def replaceEntries (mark : Nat) (w : Value) : List (Value × Value) → List (Value × Value)
  | [] => []
  | (k, v) :: rest => (k, replace mark w v) :: replaceEntries mark w rest

end

/-- The value without the mark at its root: references to the root are the marked value. -/
def unfolded : Value → Value
  | marked m v => replace m (marked m v) v
  | v => v

/-- The name of the type of a value. -/
def typeName : Value → String
  | null => "NoneType"
  | bool _ => "bool"
  | int _ => "int"
  | float _ => "float"
  | text _ => "str"
  | bytes _ => "bytes"
  | date _ => "date"
  | moment _ => "datetime"
  | list _ => "list"
  | pair _ _ => "tuple"
  | set _ => "set"
  | mapping _ => "dict"
  | marked _ v => typeName v
  | again _ => "list"

/-- The name of the type of a value with the family of types that it is from. -/
def fullTypeName : Value → String
  | date _ => "datetime.date"
  | moment _ => "datetime.datetime"
  | v => typeName v

/-- Whether a value counts as there: nulls, zeros, false and what is empty do not. -/
def isTruthy : Value → Bool
  | null => false
  | bool b => b
  | int n => n ≠ 0
  | float x => !x.isZero
  | text s => !s.isEmpty
  | bytes bs => !bs.isEmpty
  | date _ | moment _ | pair _ _ | again _ => true
  | list items => !items.isEmpty
  | set members => !members.isEmpty
  | mapping entries => !entries.isEmpty
  | marked _ v => isTruthy v

/-- The integer that a value equals as a key. -/
def keyInt? : Value → Option Int
  | bool b => some (if b then 1 else 0)
  | int n => some n
  | float x => x.toInt?
  | _ => none

/-- Whether two values are one key. Numbers are by their size, whatever their types. -/
def sameKey : Value → Value → Bool
  | null, null => true
  | text s, text t => s == t
  | bytes s, bytes t => s == t
  | date d, date e => d == e
  | moment m, moment n => m.same n
  | float x, float y => x ≠ .nan && (x == y || (x.isZero && y.isZero))
  | v, w =>
    match v.keyInt?, w.keyInt? with
    | some m, some n => m == n
    | _, _ => false

/-- Entries with one more: a known key keeps its place and its spelling. -/
def put (k v : Value) : List (Value × Value) → List (Value × Value)
  | [] => [(k, v)]
  | e :: rest => if e.1.sameKey k then (e.1, v) :: rest else e :: put k v rest

/-- The mapping of some entries; of several values for one key the last stands. -/
def ofEntries (entries : List (Value × Value)) : Value :=
  mapping (entries.foldl (fun es e => put e.1 e.2 es) [])

/-- The value of a text key among entries. -/
def field? (entries : List (Value × Value)) (name : String) : Option Value :=
  (entries.find? fun e => e.1.sameKey (text name)).map Prod.snd

mutual

/-- The value of a JSON document. -/
def ofJson : Json → Value
  | .null => null
  | .bool b => bool b
  | .int n => int n
  | .real x => float x
  | .text s => text s
  | .list items => list (ofJsonItems items)
  | .object fields => ofEntries (ofJsonFields fields)

/-- `ofJson` on every item. -/
def ofJsonItems : List Json → List Value
  | [] => []
  | v :: rest => ofJson v :: ofJsonItems rest

/-- `ofJson` on every field. -/
def ofJsonFields : List (String × Json) → List (Value × Value)
  | [] => []
  | (name, v) :: rest => (text name, ofJson v) :: ofJsonFields rest

end

end Value

end ProxyMaps
