/-
The snapshot that a document describes. Every part has a default, and a value
of another type than expected is taken for its text wherever a text will do.
-/
import ProxyMaps.Settings
import ProxyMaps.Snapshot
import ProxyMaps.Snapshot.Fault
import ProxyMaps.Text.Split
import ProxyMaps.Value.Display

namespace ProxyMaps.Snapshot

/-- The entries of a mapping. -/
abbrev Fields := List (Value × Value)

/-- The entries of the mapping at a place; null is the empty mapping. -/
def fieldsAt (place : Place) (v : Value) : Except Fault Fields :=
  match v.unfolded with
  | .null => .ok []
  | .mapping entries => .ok entries
  | w => .error (.notMapping place w.typeName)

/-- The value of a field; null if it is missing. -/
def fieldOf (fields : Fields) (name : String) : Value := (Value.field? fields name).getD .null

/-- The text of a value. -/
def textOf (v : Value) : Except Fault String :=
  match v.display? with
  | some s => .ok s
  | none => .error .endless

/-- A value as messages show it. -/
def shown (v : Value) : Except Fault String :=
  match v.expression? with
  | some s => .ok s
  | none => .error .endless

/-- The text of a field, or a default if the field is missing. -/
def textField (fields : Fields) (name default : String) : Except Fault String :=
  match Value.field? fields name with
  | some v => textOf v
  | none => .ok default

/-- The text of a field, or a default if the field is missing or counts as not there. -/
def filledField (fields : Fields) (name default : String) : Except Fault String :=
  let v := fieldOf fields name
  if v.isTruthy then textOf v else .ok default

/-- The truth value of a value. -/
def flagOf (v : Value) : Except Fault Bool :=
  match v with
  | .bool b => .ok b
  | .text s => .ok (Flag.ofText s)
  | .bytes _ => .ok false
  | v => if v.isTruthy then .error (.notFlag v.fullTypeName) else .ok false

/-- The truth value of a field, or a default if the field is missing. -/
def flagField (fields : Fields) (name : String) (default : Bool) : Except Fault Bool :=
  match Value.field? fields name with
  | some v => flagOf v
  | none => .ok default

/-- The text of a value that is there; what counts as not there is the empty text. -/
def nameOf? (v : Value) : Option String :=
  if v.isTruthy then
    match v with
    | .text s => some s
    | _ => none
  else some ""

/-- The termination of a route. -/
def terminationOf (key : String) (fields : Fields) : Except Fault Termination := do
  let v := fieldOf fields "termination"
  match (nameOf? v).bind Termination.ofName? with
  | some t => return t
  | none => throw (.unknownTermination key (← shown v))

/-- The policy of a route for insecure requests. -/
def policyOf (key : String) (fields : Fields) : Except Fault InsecurePolicy := do
  let v := fieldOf fields "insecureEdgeTerminationPolicy"
  match (nameOf? v).bind InsecurePolicy.ofName? with
  | some p => return p
  | none => throw (.unknownPolicy key (← shown v))

/-- The certificate of a key: its contents alone, or a mapping. -/
def certificateOf (key : String) (v : Value) : Except Fault Certificate := do
  match v with
  | .text contents => return ⟨key, contents⟩
  | v =>
    let fields ← fieldsAt (.certificate key) v
    let id ← textField fields "id" key
    let contents ← textField fields "contents" ""
    return ⟨id, contents⟩

/-- Faults show at most this many characters of a text that is no numeral. -/
def shownLength : Nat := 200

/-- The fault of a text that is no numeral. -/
def numeralFault (shown : List Char) : Decimal.Integer.Fault → WeightFault
  | .malformed => .notNumeral (String.ofList (shown.take shownLength))
  | .tooLong digits => .tooManyDigits digits

/-- A byte as a character; a byte that is no ASCII character belongs to no numeral. -/
def asciiOf (b : UInt8) : Char := if b < 0x80 then Char.ofNat b.toNat else '?'

/-- The weight that a value is in a route. A number loses its part after the point. -/
def weightOf (key : String) (v : Value) : Except Fault Int :=
  let numeral (s shown : List Char) : Except Fault Int :=
    match Decimal.Integer.read .decimal s with
    | .ok n => .ok n
    | .error f => .error (.weight key (numeralFault shown f))
  match v with
  | .bool b => .ok (if b then 1 else 0)
  | .int n => .ok n
  | .float .nan => .error (.weight key .notANumber)
  | .float x =>
    match x.truncate? with
    | some n => .ok n
    | none => .error .infiniteWeight
  | .text s => numeral s.toList (Text.Quoted.quote s.toList)
  | .bytes bs => numeral (bs.map asciiOf) (Text.Quoted.quoteBytes bs)
  | v => .error (.weight key (.wrongType v.fullTypeName))

/-- The table of some entries, each key and each value read by a function. -/
def tableOf {α : Type} (fields : Fields) (keyOf : Value → Except Fault String)
    (valueOf : String → Value → Except Fault α) : Except Fault (Table String α) :=
  fields.foldlM (fun t e => do
    let key ← keyOf e.1
    return t.insert key (← valueOf key e.2)) .empty

/-- The text of the key of a weight. -/
def weightKey (key : String) (k : Value) : Except Fault String :=
  match k.display? with
  | some s => .ok s
  | none => .error (.weight key .endlessKey)

/-- The two names in the key of a route, around its last colon: the namespace and the route's
own. -/
def namesOf (key : String) : String × String :=
  match Text.cutLast? ':' key.toList with
  | some (space, name) => (String.ofList space, String.ofList name)
  | none => ("", key)

/-- The route that a value describes. -/
def routeOf (key : String) (v : Value) : Except Fault Route := do
  let fields ← fieldsAt (.route key) v
  let termination ← terminationOf key fields
  let policy ← policyOf key fields
  let certificates ← tableOf (← fieldsAt (.certificates key) (fieldOf fields "certificates"))
    textOf certificateOf
  let annotations ← tableOf (← fieldsAt (.annotations key) (fieldOf fields "annotations"))
    textOf fun _ v => textOf v
  let weights ← tableOf (← fieldsAt (.weights key) (fieldOf fields "serviceUnits"))
    (weightKey key) fun _ v => weightOf key v
  let name ← textField fields "name" (namesOf key).2
  let nameSpace ← textField fields "namespace" (namesOf key).1
  let host ← filledField fields "host" ""
  let path ← filledField fields "path" ""
  let wildcard ← flagField fields "wildcard" false
  let preferredPort ← filledField fields "preferPort" ""
  return { name, nameSpace, host, path, wildcard, termination, preferredPort, certificates,
           annotations, weights, insecurePolicy := policy }

/-- The values that stand one by one where endpoints belong. -/
def endpointValues (v : Value) : Except Fault (List Value) :=
  if !v.isTruthy then .ok []
  else
    match v.unfolded with
    | .list items => .ok items
    | .set members => .ok members
    | .mapping entries => .ok (entries.map Prod.fst)
    | .text s => .ok (s.toList.map fun c => .text (String.singleton c))
    | .bytes bs => .ok (bs.map fun b => .int b.toNat)
    | w => .error (.notIterable w.fullTypeName)

/-- The endpoint that a value describes, given where it stands. -/
def endpointOf (name : String) (index : Nat) (v : Value) : Except Fault Endpoint := do
  let fields ← fieldsAt (.endpoint name index) v
  match Value.field? fields "ip" with
  | none => throw (.noIp name index)
  | some ip =>
    let id ← textField fields "id" s!"ept:{name}:{index}"
    let ip ← textOf ip
    let port ← textField fields "port" ""
    let targetName ← textField fields "targetName" ""
    let portName ← textField fields "portName" ""
    return { id, ip, port, targetName, portName }

/-- The endpoints that values describe, the first of them at a given index. -/
def endpointsFrom (name : String) : Nat → List Value → Except Fault (List Endpoint)
  | _, [] => .ok []
  | index, v :: rest => do
    let e ← endpointOf name index v
    return e :: (← endpointsFrom name (index + 1) rest)

/-- The service that a value describes. -/
def unitOf (name : String) (v : Value) : Except Fault ServiceUnit := do
  let fields ← fieldsAt (.unit name) v
  let endpoints ← endpointsFrom name 0 (← endpointValues (fieldOf fields "endpoints"))
  return { name, endpoints }

/-- What a caller may say in place of a document. -/
structure Override where
  workingDir : Option String := none
  http2Disabled : Option Bool := none
  deriving DecidableEq, Repr

/-- The snapshot that a document describes. Settings supply what neither the caller nor the
document says. -/
def ofValue (settings : Settings) (override : Override) (v : Value) : Except Fault Snapshot := do
  let fields ← fieldsAt .whole v
  let routes ← tableOf (← fieldsAt .routes (fieldOf fields "routes")) textOf routeOf
  let units ← tableOf (← fieldsAt .units (fieldOf fields "serviceUnits")) textOf unitOf
  let workingDir ←
    match override.workingDir with
    | some dir => pure dir
    | none => filledField fields "workingDir" settings.workingDir
  let http2Disabled ←
    match override.http2Disabled with
    | some b => pure b
    | none => flagField fields "disableHTTP2" settings.http2Disabled
  return { routes, units, workingDir, http2Disabled,
           certificateIndex := CertificateIndex.ofRoutes routes }

end ProxyMaps.Snapshot
