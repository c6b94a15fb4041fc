/-
What helpers are given and what they answer: plain data, and the parts of a
snapshot.
-/
import ProxyMaps.Grouping
import ProxyMaps.Json
import ProxyMaps.Snapshot

namespace ProxyMaps.Helper

/-- A value that passes between templates and helpers. -/
inductive Argument where
  | data (v : Json)
  | list (items : List Argument)
  | route (r : Route)
  | routes (rs : Routes)
  | groups (gs : Routes.Groups)
  | unit (u : ServiceUnit)
  | endpoints (es : List Endpoint)
  | snapshot (s : Snapshot)
  | termination (t : Termination)
  /-- A way to put endpoints into another order. -/
  | shuffler (shuffle : List Endpoint → List Endpoint)

namespace Argument

/-- A text as an argument. -/
def text (s : String) : Argument := data (.text s)

/-- A truth value as an argument. -/
def bool (b : Bool) : Argument := data (.bool b)

/-- A list of texts as an argument. -/
def texts (ss : List String) : Argument := data (.list (ss.map .text))

/-- The text of an argument. -/
def text? : Argument → Option String
  | data (.text s) => some s
  | _ => none

/-- Whether an argument counts as true: it is not null, false, zero or empty. -/
def isTruthy : Argument → Bool
  | data .null => false
  | data (.bool b) => b
  | data (.int n) => n != 0
  | data (.real x) => !x.isZero
  | data (.text s) => !s.isEmpty
  | data (.list items) => !items.isEmpty
  | data (.object fields) => !fields.isEmpty
  | list items => !items.isEmpty
  | routes rs => rs.size != 0
  | groups gs => gs.size != 0
  | endpoints es => !es.isEmpty
  | route _ | unit _ | snapshot _ | termination _ | shuffler _ => true

end Argument

end ProxyMaps.Helper
