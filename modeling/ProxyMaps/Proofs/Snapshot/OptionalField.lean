/-
The fields that a document may leave out, and documents that load alike.

A field that is missing counts as something (`Fallback`), and all that is ever
asked about an optional field is asked through that: two values of it are
`Same` if no such question tells them apart. Documents are `Alike` if they
differ, in any number of places, only in optional fields and only as a given
relation says. If the relation never leaves what is the same, documents that
are alike load alike (`Alike.ofValue_eq`).

The relation follows the functions that make up `ofValue`, each of which reads
one kind of mapping, and so do the lemmas.
-/
import Mathlib.Data.List.Forall2
import ProxyMaps.Snapshot.OfValue

namespace ProxyMaps.Snapshot

/-- The kinds of mappings whose fields have names of their own. -/
inductive Part where
  | whole
  | route
  | certificate
  | unit
  | endpoint
  deriving DecidableEq, Repr

/-- What a field counts as if it is missing. -/
inductive Fallback where
  /-- Null. -/
  | null
  /-- The truth value false. -/
  | no
  /-- What the settings say about HTTP/2. -/
  | setting
  /-- A text, which may depend on where the mapping stands. -/
  | text
  deriving DecidableEq, Repr

/-- A field that a mapping may leave out. -/
structure OptionalField where
  part : Part
  name : String
  fallback : Fallback
  deriving DecidableEq, Repr

/-- The optional fields of a document. Only the address of an endpoint is none of them. -/
def optionalFields : List OptionalField := [
  ⟨.whole, "routes", .null⟩, ⟨.whole, "serviceUnits", .null⟩, ⟨.whole, "workingDir", .null⟩,
  ⟨.whole, "disableHTTP2", .setting⟩,
  ⟨.route, "name", .text⟩, ⟨.route, "namespace", .text⟩, ⟨.route, "host", .null⟩,
  ⟨.route, "path", .null⟩, ⟨.route, "wildcard", .no⟩, ⟨.route, "termination", .null⟩,
  ⟨.route, "insecureEdgeTerminationPolicy", .null⟩, ⟨.route, "preferPort", .null⟩,
  ⟨.route, "certificates", .null⟩, ⟨.route, "annotations", .null⟩, ⟨.route, "serviceUnits", .null⟩,
  ⟨.certificate, "id", .text⟩, ⟨.certificate, "contents", .text⟩,
  ⟨.unit, "endpoints", .null⟩,
  ⟨.endpoint, "id", .text⟩, ⟨.endpoint, "port", .text⟩, ⟨.endpoint, "targetName", .text⟩,
  ⟨.endpoint, "portName", .text⟩]

/-! ## Values that a field does not tell apart -/

section Same

variable (settings : Settings) (override : Override)

/-- Two values of a field come to the same; there is no value if the field is missing. -/
def Fallback.Same : Fallback → Option Value → Option Value → Prop
  | .null, x, y => x.getD .null = y.getD .null
  | .no, x, y => x.elim (.ok false) flagOf = y.elim (.ok false) flagOf
  | .setting, x, y => override.http2Disabled.isSome ∨
      x.elim (.ok settings.http2Disabled) flagOf = y.elim (.ok settings.http2Disabled) flagOf
  | .text, x, y => ∀ default, x.elim (.ok default) textOf = y.elim (.ok default) textOf

variable {settings override}

theorem Fallback.same_refl (k : Fallback) (x : Option Value) : k.Same settings override x x := by
  cases k with
  | null => exact rfl
  | no => exact rfl
  | setting => exact .inr rfl
  | text => exact fun _ => rfl

variable {es es' : Fields} {name : String}

theorem fieldOf_same
    (h : Fallback.null.Same settings override (Value.field? es name) (Value.field? es' name)) :
    fieldOf es name = fieldOf es' name := h

theorem filledField_eq (h : fieldOf es name = fieldOf es' name) (default : String) :
    filledField es name default = filledField es' name default := by
  unfold filledField
  rw [h]

theorem textField_eq_elim (es : Fields) (name default : String) :
    textField es name default = (Value.field? es name).elim (.ok default) textOf := by
  unfold textField
  cases Value.field? es name <;> rfl

theorem flagField_eq_elim (es : Fields) (name : String) (default : Bool) :
    flagField es name default = (Value.field? es name).elim (.ok default) flagOf := by
  unfold flagField
  cases Value.field? es name <;> rfl

theorem textField_same
    (h : Fallback.text.Same settings override (Value.field? es name) (Value.field? es' name))
    (default : String) : textField es name default = textField es' name default := by
  rw [textField_eq_elim, textField_eq_elim]
  exact h default

theorem flagField_same
    (h : Fallback.no.Same settings override (Value.field? es name) (Value.field? es' name)) :
    flagField es name false = flagField es' name false := by
  rw [flagField_eq_elim, flagField_eq_elim]
  exact h

end Same

/-! ## Documents that differ only in optional fields -/

/-- A relation between two values of an optional field; there is no value if the field is
missing. -/
abbrev Change := OptionalField → Option Value → Option Value → Prop

/-- What one field of a part says in two mappings: the same, a change, or values that differ
further inside. -/
inductive FieldAlike (c : Change) (part : Part) (name : String) (inside : Value → Value → Prop) :
    Option Value → Option Value → Prop
  | same (x : Option Value) : FieldAlike c part name inside x x
  | changed {f : OptionalField} {x y : Option Value} (hf : f ∈ optionalFields) (hpart : f.part = part)
      (hname : f.name = name) (h : c f x y) : FieldAlike c part name inside x y
  | inside {v w : Value} (h : inside v w) : FieldAlike c part name inside (some v) (some w)

/-- The same fields, but for changes. -/
def FieldsAlike (c : Change) (part : Part) (inside : String → Value → Value → Prop)
    (es es' : Fields) : Prop :=
  ∀ name, FieldAlike c part name (inside name) (Value.field? es name) (Value.field? es' name)

/-- The same value, or two mappings with the same fields, but for changes. -/
inductive MappingAlike (c : Change) (part : Part) (inside : String → Value → Value → Prop)
    (v w : Value) : Prop
  | same (h : v = w)
  | fields {es es' : Fields} (hv : v.unfolded = .mapping es) (hw : w.unfolded = .mapping es')
      (h : FieldsAlike c part inside es es')

/-- Two mappings with the same keys and related values. -/
def EntriesAlike (R : Value → Value → Prop) (v w : Value) : Prop :=
  ∃ es es', v.unfolded = .mapping es ∧ w.unfolded = .mapping es' ∧
    List.Forall₂ (fun e e' => e.1 = e'.1 ∧ R e.2 e'.2) es es'

/-- Two lists with related items. -/
def ItemsAlike (R : Value → Value → Prop) (v w : Value) : Prop :=
  ∃ xs ys, v.unfolded = .list xs ∧ w.unfolded = .list ys ∧ List.Forall₂ R xs ys

/-- Certificates that are the same, but for changes. -/
def CertificateAlike (c : Change) : Value → Value → Prop :=
  MappingAlike c .certificate fun _ _ _ => False

/-- Routes that are the same, but for changes in them and in their certificates. -/
def RouteAlike (c : Change) : Value → Value → Prop :=
  MappingAlike c .route fun name v w =>
    name = "certificates" ∧ EntriesAlike (CertificateAlike c) v w

/-- Endpoints that are the same, but for changes. -/
def EndpointAlike (c : Change) : Value → Value → Prop :=
  MappingAlike c .endpoint fun _ _ _ => False

/-- Services that are the same, but for changes in them and in their endpoints. -/
def UnitAlike (c : Change) : Value → Value → Prop :=
  MappingAlike c .unit fun name v w => name = "endpoints" ∧ ItemsAlike (EndpointAlike c) v w

/-- Documents that are the same, but for changes, wherever they are. -/
def Alike (c : Change) : Value → Value → Prop :=
  MappingAlike c .whole fun name v w =>
    name = "routes" ∧ EntriesAlike (RouteAlike c) v w ∨
      name = "serviceUnits" ∧ EntriesAlike (UnitAlike c) v w

/-- A change is only ever between two values that come to the same. -/
def Change.Harmless (settings : Settings) (override : Override) (c : Change) : Prop :=
  ∀ f ∈ optionalFields, ∀ x y, c f x y → f.fallback.Same settings override x y

/-! ## Such documents load alike -/

theorem bind_eq_bind {α β : Type} {x y : Except Fault α} {g g' : α → Except Fault β} (h : x = y)
    (hg : ∀ a, g a = g' a) : (x >>= g) = (y >>= g') := by
  rw [h]
  exact bind_congr hg

section Mapping

variable {settings : Settings} {override : Override} {c : Change} {part : Part}
  {inside : String → Value → Value → Prop} {es es' : Fields} {v w : Value}

theorem fieldsAt_of_mapping (place : Place) (h : v.unfolded = .mapping es) :
    fieldsAt place v = .ok es := by
  rw [fieldsAt, h]

theorem MappingAlike.bind_fieldsAt {β : Type} {place : Place} {g : Fields → Except Fault β}
    (h : MappingAlike c part inside v w)
    (hg : ∀ es es', FieldsAlike c part inside es es' → g es = g es') :
    (fieldsAt place v >>= g) = (fieldsAt place w >>= g) := by
  cases h with
  | same h => rw [h]
  | fields hv hw h =>
    rw [fieldsAt_of_mapping place hv, fieldsAt_of_mapping place hw]
    exact hg _ _ h

/-- An optional field says what comes to the same, unless its values differ further inside. -/
theorem FieldsAlike.same_or_inside (hc : c.Harmless settings override)
    (h : FieldsAlike c part inside es es') (name : String) {k : Fallback}
    (hk : ∀ f ∈ optionalFields, f.part = part → f.name = name → f.fallback = k) :
    k.Same settings override (Value.field? es name) (Value.field? es' name) ∨
      inside name (fieldOf es name) (fieldOf es' name) := by
  unfold fieldOf
  have hname := h name
  generalize Value.field? es name = x at hname ⊢
  generalize Value.field? es' name = y at hname ⊢
  cases hname with
  | same => exact .inl (k.same_refl x)
  | changed hf hpart hname h => exact .inl (hk _ hf hpart hname ▸ hc _ hf _ _ h)
  | inside h => exact .inr h

theorem FieldsAlike.same (hc : c.Harmless settings override) (h : FieldsAlike c part inside es es')
    (name : String) {k : Fallback}
    (hk : ∀ f ∈ optionalFields, f.part = part → f.name = name → f.fallback = k)
    (hi : ∀ v w, ¬ inside name v w) :
    k.Same settings override (Value.field? es name) (Value.field? es' name) :=
  (h.same_or_inside hc name hk).resolve_right (hi _ _)

/-- A field that is not optional says the same, unless its values differ further inside. -/
theorem FieldsAlike.field?_eq (h : FieldsAlike c part inside es es') (name : String)
    (hname : ∀ f ∈ optionalFields, f.part = part → f.name ≠ name) (hi : ∀ v w, ¬ inside name v w) :
    Value.field? es name = Value.field? es' name := by
  have hx := h name
  generalize Value.field? es name = x at hx ⊢
  generalize Value.field? es' name = y at hx ⊢
  cases hx with
  | same => rfl
  | changed hf hpart h _ => exact absurd h (hname _ hf hpart)
  | inside h => exact absurd h (hi _ _)

end Mapping

section Table

variable {α β : Type} {R : Value → Value → Prop} {keyOf : Value → Except Fault String}
  {valueOf : String → Value → Except Fault α}

theorem tableOf_eq (hR : ∀ key v w, R v w → valueOf key v = valueOf key w) {es es' : Fields}
    (h : List.Forall₂ (fun e e' => e.1 = e'.1 ∧ R e.2 e'.2) es es') :
    tableOf es keyOf valueOf = tableOf es' keyOf valueOf := by
  unfold tableOf
  -- entries are read behind any others, whose table is `t`
  generalize Table.empty = t
  induction h generalizing t with
  | nil => rfl
  | cons he _ ih =>
    obtain ⟨hkey, hvalue⟩ := he
    rw [List.foldlM_cons, List.foldlM_cons, hkey]
    refine bind_eq_bind (bind_congr fun key => ?_) ih
    rw [hR key _ _ hvalue]

theorem bind_tableOf_eq {place : Place} {v w : Value} {g g' : Table String α → Except Fault β}
    (hR : ∀ key v w, R v w → valueOf key v = valueOf key w) (h : v = w ∨ EntriesAlike R v w)
    (hg : ∀ t, g t = g' t) :
    (fieldsAt place v >>= fun fields => tableOf fields keyOf valueOf >>= g) =
      (fieldsAt place w >>= fun fields => tableOf fields keyOf valueOf >>= g') := by
  rcases h with rfl | ⟨es, es', hv, hw, h⟩
  · exact bind_congr fun fields => bind_congr hg
  · rw [fieldsAt_of_mapping place hv, fieldsAt_of_mapping place hw]
    show (tableOf es keyOf valueOf >>= g) = (tableOf es' keyOf valueOf >>= g')
    exact bind_eq_bind (tableOf_eq hR h) hg

end Table

section Parts

variable {settings : Settings} {override : Override} {c : Change} {v w : Value}

theorem CertificateAlike.certificateOf_eq (hc : c.Harmless settings override)
    (h : CertificateAlike c v w) (key : String) : certificateOf key v = certificateOf key w := by
  cases h with
  | same h => rw [h]
  | fields hv hw h =>
    unfold certificateOf
    -- a certificate that is a text is no mapping
    split
    · cases hv
    split
    · cases hw
    refine (MappingAlike.fields hv hw h).bind_fieldsAt fun es es' h => ?_
    refine bind_eq_bind (textField_same (h.same hc "id" (by decide) (by simp)) _) fun id => ?_
    exact bind_eq_bind (textField_same (h.same hc "contents" (by decide) (by simp)) _)
      fun contents => rfl

theorem terminationOf_eq {es es' : Fields} (key : String)
    (h : fieldOf es "termination" = fieldOf es' "termination") :
    terminationOf key es = terminationOf key es' := by
  unfold terminationOf
  rw [h]

theorem policyOf_eq {es es' : Fields} (key : String)
    (h : fieldOf es "insecureEdgeTerminationPolicy" = fieldOf es' "insecureEdgeTerminationPolicy") :
    policyOf key es = policyOf key es' := by
  unfold policyOf
  rw [h]

theorem RouteAlike.routeOf_eq (hc : c.Harmless settings override) (h : RouteAlike c v w)
    (key : String) : routeOf key v = routeOf key w := by
  refine h.bind_fieldsAt fun es es' h => ?_
  have value (name : String)
      (hk : ∀ f ∈ optionalFields, f.part = .route → f.name = name → f.fallback = .null)
      (hname : name ≠ "certificates") : fieldOf es name = fieldOf es' name :=
    fieldOf_same (h.same hc name hk fun _ _ hi => hname hi.1)
  have text (name default : String)
      (hk : ∀ f ∈ optionalFields, f.part = .route → f.name = name → f.fallback = .text)
      (hname : name ≠ "certificates") : textField es name default = textField es' name default :=
    textField_same (h.same hc name hk fun _ _ hi => hname hi.1) default
  have certificates : fieldOf es "certificates" = fieldOf es' "certificates" ∨
      EntriesAlike (CertificateAlike c) (fieldOf es "certificates") (fieldOf es' "certificates") :=
    (h.same_or_inside hc "certificates" (k := .null) (by decide)).imp fieldOf_same And.right
  refine bind_eq_bind (terminationOf_eq key (value "termination" (by decide) (by decide)))
    fun termination => ?_
  refine bind_eq_bind
    (policyOf_eq key (value "insecureEdgeTerminationPolicy" (by decide) (by decide)))
    fun policy => ?_
  refine bind_tableOf_eq (fun key _ _ h => h.certificateOf_eq hc key) certificates
    fun certificates => ?_
  rw [value "annotations" (by decide) (by decide), value "serviceUnits" (by decide) (by decide)]
  refine bind_congr fun fields => bind_congr fun annotations => ?_
  refine bind_congr fun fields => bind_congr fun weights => ?_
  refine bind_eq_bind (text "name" _ (by decide) (by decide)) fun name => ?_
  refine bind_eq_bind (text "namespace" _ (by decide) (by decide)) fun nameSpace => ?_
  refine bind_eq_bind (filledField_eq (value "host" (by decide) (by decide)) _) fun host => ?_
  refine bind_eq_bind (filledField_eq (value "path" (by decide) (by decide)) _) fun path => ?_
  refine bind_eq_bind (flagField_same (h.same hc "wildcard" (by decide) (by simp)))
    fun wildcard => ?_
  exact bind_eq_bind (filledField_eq (value "preferPort" (by decide) (by decide)) _)
    fun preferredPort => rfl

theorem EndpointAlike.endpointOf_eq (hc : c.Harmless settings override) (h : EndpointAlike c v w)
    (name : String) (index : Nat) : endpointOf name index v = endpointOf name index w := by
  refine h.bind_fieldsAt fun es es' h => ?_
  have text (name default : String)
      (hk : ∀ f ∈ optionalFields, f.part = .endpoint → f.name = name → f.fallback = .text) :
      textField es name default = textField es' name default :=
    textField_same (h.same hc name hk (by simp)) default
  rw [h.field?_eq "ip" (by decide) (by simp)]
  cases Value.field? es' "ip" with
  | none => rfl
  | some ip =>
    refine bind_eq_bind (text "id" _ (by decide)) fun id => bind_congr fun ip => ?_
    refine bind_eq_bind (text "port" _ (by decide)) fun port => ?_
    refine bind_eq_bind (text "targetName" _ (by decide)) fun targetName => ?_
    exact bind_eq_bind (text "portName" _ (by decide)) fun portName => rfl

theorem endpointsFrom_eq (hc : c.Harmless settings override) (name : String) {xs ys : List Value}
    (h : List.Forall₂ (EndpointAlike c) xs ys) (index : Nat) :
    endpointsFrom name index xs = endpointsFrom name index ys := by
  induction h generalizing index with
  | nil => rfl
  | cons hv _ ih =>
    refine bind_eq_bind (hv.endpointOf_eq hc name index) fun e => ?_
    rw [ih]

theorem isTruthy_of_list {items : List Value} (h : v.unfolded = .list items) :
    v.isTruthy = !items.isEmpty := by
  cases v with
  | list =>
    cases h
    rfl
  | marked m w =>
    -- what is inside the mark is a list too, with as many items
    cases w with
    | list inner =>
      cases h
      cases inner <;> rfl
    | again k =>
      simp only [Value.unfolded, Value.replace] at h
      split at h <;> cases h
    | marked k w =>
      simp only [Value.unfolded, Value.replace] at h
      split at h <;> cases h
    | _ => simp [Value.unfolded, Value.replace] at h
  | _ => cases h

theorem endpointValues_of_list {items : List Value} (h : v.unfolded = .list items) :
    endpointValues v = .ok items := by
  unfold endpointValues
  rw [isTruthy_of_list h, h]
  cases items <;> rfl

theorem UnitAlike.unitOf_eq (hc : c.Harmless settings override) (h : UnitAlike c v w)
    (name : String) : unitOf name v = unitOf name w := by
  refine h.bind_fieldsAt fun es es' h => ?_
  rcases h.same_or_inside hc "endpoints" (k := .null) (by decide) with h | ⟨-, h⟩
  · rw [fieldOf_same h]
  · obtain ⟨xs, ys, hv, hw, h⟩ := h
    rw [endpointValues_of_list hv, endpointValues_of_list hw]
    exact bind_eq_bind (x := endpointsFrom name 0 xs) (endpointsFrom_eq hc name h 0)
      fun endpoints => rfl

/-- Documents load alike if all that they differ in comes to the same. -/
theorem Alike.ofValue_eq (hc : c.Harmless settings override) (h : Alike c v w) :
    ofValue settings override v = ofValue settings override w := by
  refine h.bind_fieldsAt fun es es' h => ?_
  have routes : fieldOf es "routes" = fieldOf es' "routes" ∨
      EntriesAlike (RouteAlike c) (fieldOf es "routes") (fieldOf es' "routes") :=
    (h.same_or_inside hc "routes" (k := .null) (by decide)).imp fieldOf_same (by simp)
  have units : fieldOf es "serviceUnits" = fieldOf es' "serviceUnits" ∨
      EntriesAlike (UnitAlike c) (fieldOf es "serviceUnits") (fieldOf es' "serviceUnits") :=
    (h.same_or_inside hc "serviceUnits" (k := .null) (by decide)).imp fieldOf_same (by simp)
  refine bind_tableOf_eq (fun key _ _ h => h.routeOf_eq hc key) routes fun routes => ?_
  refine bind_tableOf_eq (fun key _ _ h => h.unitOf_eq hc key) units fun units => ?_
  have dir := fieldOf_same (h.same hc "workingDir" (by decide) (by simp))
  rw [filledField_eq dir]
  rcases h.same hc "disableHTTP2" (k := .setting) (by decide) (by simp) with hset | flag
  · obtain ⟨b, hb⟩ := Option.isSome_iff_exists.1 hset
    rw [hb]
  · rw [flagField_eq_elim, flagField_eq_elim, flag]

end Parts

end ProxyMaps.Snapshot
