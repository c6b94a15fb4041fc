/-
How a document is read: one part after the other, each as a mapping, a text, a
truth value, a weight or whatever belongs in its place. `readings` lists these
readings in their order. A document gives a snapshot if none of them fails,
and the first one that fails decides the fault (`follows_ofValue`).

The lists follow the functions that make up `ofValue`, and so do the lemmas:
what a function does is a list of readings (`Follows`), and a function that
calls others does theirs one after the other (`Follows.bind`).
-/
import ProxyMaps.Value.Display
import ProxyMaps.Snapshot.OfValue

namespace ProxyMaps.Snapshot

/-- The reading of one part of a document. -/
inductive Reading where
  | mapping (place : Place) (v : Value)
  | text (v : Value)
  | flag (v : Value)
  | termination (key : String) (fields : Fields)
  | policy (key : String) (fields : Fields)
  | weightKey (key : String) (k : Value)
  | weight (key : String) (v : Value)
  | endpoints (v : Value)
  | ip (name : String) (index : Nat) (fields : Fields)

/-- The fault of a result, unless it is a value. -/
def faultOf {α : Type} : Except Fault α → Option Fault
  | .ok _ => none
  | .error f => some f

namespace Reading

/-- The fault of a reading, if it fails. -/
def fault? : Reading → Option Fault
  | mapping place v => faultOf (fieldsAt place v)
  | text v => faultOf (textOf v)
  | flag v => faultOf (flagOf v)
  | termination key fields => faultOf (terminationOf key fields)
  | policy key fields => faultOf (policyOf key fields)
  | weightKey key k => faultOf (Snapshot.weightKey key k)
  | weight key v => faultOf (weightOf key v)
  | endpoints v => faultOf (endpointValues v)
  | ip name index fields => if (Value.field? fields "ip").isSome then none else some (.noIp name index)

/-- Whether a reading fails. -/
def fails (r : Reading) : Bool := r.fault?.isSome

end Reading

/-! ## The readings of a document -/

/-- The entries of a mapping; any other value has none. -/
def entriesAt (v : Value) : Fields :=
  match v.unfolded with
  | .mapping entries => entries
  | _ => []

/-- The text of a key that has one. -/
def keyText (k : Value) : String := k.display?.getD ""

/-- The readings of a mapping whose keys are read one way and whose values another. -/
def tableReadings (place : Place) (v : Value) (ofKey : Value → Reading)
    (ofEntry : String → Value → List Reading) : List Reading :=
  .mapping place v :: (entriesAt v).flatMap fun e => ofKey e.1 :: ofEntry (keyText e.1) e.2

/-- The reading of a field, unless the field is missing. -/
def fieldReading (read : Value → Reading) (fields : Fields) (name : String) : List Reading :=
  ((Value.field? fields name).map read).toList

/-- The reading of a field as a text, unless the field is missing or counts as not there. -/
def filledReading (fields : Fields) (name : String) : List Reading :=
  if (fieldOf fields name).isTruthy then [.text (fieldOf fields name)] else []

/-- The readings of a certificate. -/
def certificateReadings (key : String) (v : Value) : List Reading :=
  match v with
  | .text _ => []
  | v =>
    .mapping (.certificate key) v ::
      (fieldReading .text (entriesAt v) "id" ++ fieldReading .text (entriesAt v) "contents")

/-- The readings of a route. -/
def routeReadings (key : String) (v : Value) : List Reading :=
  let fields := entriesAt v
  .mapping (.route key) v :: .termination key fields :: .policy key fields ::
    (tableReadings (.certificates key) (fieldOf fields "certificates") .text certificateReadings ++
    (tableReadings (.annotations key) (fieldOf fields "annotations") .text (fun _ v => [.text v]) ++
    (tableReadings (.weights key) (fieldOf fields "serviceUnits") (.weightKey key)
      (fun _ v => [.weight key v]) ++
    (fieldReading .text fields "name" ++ (fieldReading .text fields "namespace" ++
    (filledReading fields "host" ++ (filledReading fields "path" ++
    (fieldReading .flag fields "wildcard" ++ filledReading fields "preferPort"))))))))

/-- The readings of an endpoint. -/
def endpointReadings (name : String) (index : Nat) (v : Value) : List Reading :=
  let fields := entriesAt v
  .mapping (.endpoint name index) v :: .ip name index fields ::
    (fieldReading .text fields "id" ++ (fieldReading .text fields "ip" ++
    (fieldReading .text fields "port" ++ (fieldReading .text fields "targetName" ++
    fieldReading .text fields "portName"))))

/-- The readings of endpoints, the first of them at a given index. -/
def endpointsReadings (name : String) : Nat → List Value → List Reading
  | _, [] => []
  | index, v :: rest => endpointReadings name index v ++ endpointsReadings name (index + 1) rest

/-- The readings of a service. -/
def unitReadings (name : String) (v : Value) : List Reading :=
  let endpoints := fieldOf (entriesAt v) "endpoints"
  .mapping (.unit name) v :: .endpoints endpoints ::
    endpointsReadings name 0 ((endpointValues endpoints).toOption.getD [])

/-- The readings of a document in their order. What the caller says is not read. -/
def readings (override : Override) (v : Value) : List Reading :=
  let fields := entriesAt v
  .mapping .whole v ::
    (tableReadings .routes (fieldOf fields "routes") .text routeReadings ++
    (tableReadings .units (fieldOf fields "serviceUnits") .text unitReadings ++
    ((if override.workingDir.isNone then filledReading fields "workingDir" else []) ++
    (if override.http2Disabled.isNone then fieldReading .flag fields "disableHTTP2" else []))))

/-! ## Results that follow readings -/

/-- A result fails as the first of some readings that fails, and only then. -/
def Follows {α : Type} (x : Except Fault α) (rs : List Reading) : Prop :=
  faultOf x = rs.findSome? Reading.fault?

section Follows

variable {α β : Type} {x : Except Fault α} {g : α → Except Fault β} {r : Reading}
  {rs rs' : List Reading}

theorem follows_ok (a : α) : Follows (.ok a) [] := rfl

theorem follows_one (h : faultOf x = r.fault?) : Follows x [r] := by
  rw [Follows, h, List.findSome?_cons]
  cases r.fault? <;> rfl

theorem Follows.bind (hx : Follows x rs) (hg : ∀ a, x = .ok a → Follows (g a) rs') :
    Follows (x >>= g) (rs ++ rs') := by
  unfold Follows at *
  rw [List.findSome?_append, ← hx]
  cases x with
  | error f => rfl
  | ok a => exact hg a rfl

theorem Follows.bind_pure {c : α → β} (hx : Follows x rs) :
    Follows (x >>= fun a => pure (c a)) rs := by
  have h := hx.bind (g := fun a => pure (c a)) fun a _ => follows_ok (c a)
  rwa [List.append_nil] at h

theorem Follows.cons (h : faultOf x = r.fault?) (hg : ∀ a, x = .ok a → Follows (g a) rs) :
    Follows (x >>= g) (r :: rs) :=
  (follows_one h).bind hg

end Follows

section Fields

variable {α β : Type} {fields : Fields} {rs : List Reading}

theorem eq_entriesAt {place : Place} {v : Value} (h : fieldsAt place v = .ok fields) :
    fields = entriesAt v := by
  unfold fieldsAt at h
  unfold entriesAt
  split at h
  · rename_i hv
    rw [hv]
    exact (Except.ok.inj h).symm
  · rename_i hv
    rw [hv]
    exact (Except.ok.inj h).symm
  · cases h

theorem follows_mapping {place : Place} {v : Value} {g : Fields → Except Fault β}
    (h : Follows (g (entriesAt v)) rs) : Follows (fieldsAt place v >>= g) (.mapping place v :: rs) := by
  refine Follows.cons rfl fun fields hfields => ?_
  rw [eq_entriesAt hfields]
  exact h

theorem follows_textField {name default : String} :
    Follows (textField fields name default) (fieldReading .text fields name) := by
  unfold textField fieldReading
  cases Value.field? fields name with
  | none => exact follows_ok default
  | some v => exact follows_one rfl

theorem follows_flagField {name : String} {default : Bool} :
    Follows (flagField fields name default) (fieldReading .flag fields name) := by
  unfold flagField fieldReading
  cases Value.field? fields name with
  | none => exact follows_ok default
  | some v => exact follows_one rfl

theorem follows_filledField {name default : String} :
    Follows (filledField fields name default) (filledReading fields name) := by
  simp only [filledField, filledReading]
  split
  · exact follows_one rfl
  · exact follows_ok default

end Fields

section Table

variable {α β : Type} {keyOf : Value → Except Fault String}
  {valueOf : String → Value → Except Fault α} {ofKey : Value → Reading}
  {ofEntry : String → Value → List Reading}

/-- How the keys of a table are read: as their texts. -/
structure ReadsKeys (keyOf : Value → Except Fault String) (ofKey : Value → Reading) : Prop where
  fault : ∀ k, faultOf (keyOf k) = (ofKey k).fault?
  text : ∀ {k s}, keyOf k = .ok s → s = keyText k

theorem readsKeys_text : ReadsKeys textOf .text where
  fault _ := rfl
  text {k s} h := by
    unfold textOf at h
    unfold keyText
    split at h
    · rename_i hk
      rw [hk]
      exact (Except.ok.inj h).symm
    · cases h

theorem readsKeys_weightKey (key : String) : ReadsKeys (weightKey key) (.weightKey key) where
  fault _ := rfl
  text {k s} h := by
    unfold weightKey at h
    unfold keyText
    split at h
    · rename_i hk
      rw [hk]
      exact (Except.ok.inj h).symm
    · cases h

theorem follows_tableOf (hk : ReadsKeys keyOf ofKey)
    (hv : ∀ key v, Follows (valueOf key v) (ofEntry key v)) (fields : Fields) :
    Follows (tableOf fields keyOf valueOf)
      (fields.flatMap fun e => ofKey e.1 :: ofEntry (keyText e.1) e.2) := by
  unfold tableOf
  -- entries are read behind any others, whose table is `t`
  generalize Table.empty = t
  induction fields generalizing t with
  | nil => exact follows_ok t
  | cons e rest ih =>
    rw [List.foldlM_cons, List.flatMap_cons]
    refine Follows.bind ?_ fun t' _ => ih t'
    refine Follows.cons (hk.fault e.1) fun key hkey => ?_
    rw [hk.text hkey]
    exact (hv (keyText e.1) e.2).bind_pure

theorem Follows.table {place : Place} {v : Value} {g : Table String α → Except Fault β}
    {rs : List Reading} (hk : ReadsKeys keyOf ofKey)
    (hv : ∀ key v, Follows (valueOf key v) (ofEntry key v)) (hg : ∀ t, Follows (g t) rs) :
    Follows (fieldsAt place v >>= fun fields => tableOf fields keyOf valueOf >>= g)
      (tableReadings place v ofKey ofEntry ++ rs) :=
  follows_mapping ((follows_tableOf hk hv (entriesAt v)).bind fun t _ => hg t)

end Table

/-! ## The functions of a snapshot -/

theorem follows_certificateOf (key : String) (v : Value) :
    Follows (certificateOf key v) (certificateReadings key v) := by
  cases v with
  | text contents => exact follows_ok _
  | _ =>
    refine follows_mapping ?_
    exact follows_textField.bind fun id _ => follows_textField.bind_pure

theorem follows_routeOf (key : String) (v : Value) :
    Follows (routeOf key v) (routeReadings key v) := by
  refine follows_mapping (Follows.cons rfl fun termination _ => Follows.cons rfl fun policy _ => ?_)
  refine Follows.table readsKeys_text follows_certificateOf fun certificates => ?_
  refine Follows.table readsKeys_text (fun _ v => follows_one rfl) fun annotations => ?_
  refine Follows.table (readsKeys_weightKey key) (fun _ v => follows_one rfl) fun weights => ?_
  refine follows_textField.bind fun name _ => follows_textField.bind fun nameSpace _ => ?_
  refine follows_filledField.bind fun host _ => follows_filledField.bind fun path _ => ?_
  exact follows_flagField.bind fun wildcard _ => follows_filledField.bind_pure

theorem follows_endpointOf (name : String) (index : Nat) (v : Value) :
    Follows (endpointOf name index v) (endpointReadings name index v) := by
  refine follows_mapping ?_
  unfold Follows
  rw [List.findSome?_cons, Reading.fault?]
  cases hip : Value.field? (entriesAt v) "ip" with
  | none => rfl
  | some ip =>
    have hread : fieldReading .text (entriesAt v) "ip" = [.text ip] := by
      rw [fieldReading, hip]
      rfl
    rw [hread]
    refine follows_textField.bind fun id _ => Follows.cons rfl fun ip _ => ?_
    refine follows_textField.bind fun port _ => follows_textField.bind fun targetName _ => ?_
    exact follows_textField.bind_pure

theorem follows_endpointsFrom (name : String) (index : Nat) (values : List Value) :
    Follows (endpointsFrom name index values) (endpointsReadings name index values) := by
  induction values generalizing index with
  | nil => exact follows_ok []
  | cons v rest ih =>
    exact (follows_endpointOf name index v).bind fun e _ => (ih (index + 1)).bind_pure

theorem follows_unitOf (name : String) (v : Value) :
    Follows (unitOf name v) (unitReadings name v) := by
  refine follows_mapping (Follows.cons rfl fun values hvalues => ?_)
  rw [hvalues]
  exact (follows_endpointsFrom name 0 values).bind_pure

/-- A document gives a snapshot if none of its readings fails, and else the fault of the first
one that does. -/
theorem follows_ofValue (settings : Settings) (override : Override) (v : Value) :
    Follows (ofValue settings override v) (readings override v) := by
  refine follows_mapping ?_
  refine Follows.table readsKeys_text follows_routeOf fun routes => ?_
  refine Follows.table readsKeys_text follows_unitOf fun units => ?_
  obtain ⟨_ | dir, _ | http2Disabled⟩ := override
  · exact follows_filledField.bind fun dir _ => follows_flagField.bind_pure
  · exact follows_filledField.bind fun dir _ => follows_ok _
  · exact follows_flagField.bind_pure
  · exact follows_ok _

end ProxyMaps.Snapshot
