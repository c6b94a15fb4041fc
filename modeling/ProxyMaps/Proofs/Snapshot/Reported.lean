/-
Which faults of a text are reported as faults of the snapshot. A value that
has not the type that belongs in its place is reported, with five exceptions
that no check stands in front of: an integer of too many digits where a text
is wanted, a value that is there but neither a truth value nor a text where a
truth value is wanted, an infinite weight, a value without parts where
endpoints are wanted, and a node of the document itself whose tag promises
what its text is not. What counts is the first part of a document that cannot
be read, since nothing behind it is looked at.
-/
import ProxyMaps.Proofs.Snapshot.Reading
import ProxyMaps.Proofs.Value.Endless
import ProxyMaps.Proofs.Yaml.Misfit
import ProxyMaps.Snapshot.OfText

namespace ProxyMaps

namespace Value

/-- Whether a value is read as a truth value whatever it says. -/
def isFlag : Value → Bool
  | bool _ | text _ | bytes _ => true
  | _ => false

/-- Whether a value has parts that can stand one by one. -/
def hasParts : Value → Bool
  | list _ | set _ | mapping _ | text _ | bytes _ => true
  | _ => false

end Value

namespace Snapshot

/-- A fault that is reported as one of the snapshot; any other is that of a conversion itself. -/
def Fault.Reported : Fault → Prop
  | unparsable f => f = .malformed
  | documentCount _ | notMapping _ _ | unknownTermination _ _ | unknownPolicy _ _ => True
  | weight _ _ | noIp _ _ => True
  | infiniteWeight | notFlag _ | notIterable _ | endless => False

/-- A part of a document that breaks the conversion of it. -/
def Reading.Unconvertible : Reading → Prop
  | text v => v.Endless
  | termination _ fields => (fieldOf fields "termination").Endless
  | policy _ fields => (fieldOf fields "insecureEdgeTerminationPolicy").Endless
  | flag v => v.isTruthy = true ∧ v.isFlag = false
  | weight _ v => ∃ negative, v = .float (.infinite negative)
  | endpoints v => v.isTruthy = true ∧ v.unfolded.hasParts = false
  | mapping _ _ | weightKey _ _ | ip _ _ _ => False

/-- The first part of a document that cannot be read breaks its conversion. -/
def BreaksAt (override : Override) (v : Value) : Prop :=
  ∃ r, (readings override v).find? Reading.fails = some r ∧ r.Unconvertible

/-- A text that is read as YAML, where the first node with a fault is one whose tag promises
what the node is not. -/
def BreaksReader (text : String) : Prop :=
  looksLikeJson text = false ∧
    ∃ v, (Yaml.visits text).find? Yaml.Visit.fails = some v ∧ v.Misfit

/-! ## One reading -/

/-- A result fails, and not with a fault that is reported. -/
def Escapes {α : Type} (x : Except Fault α) : Prop := ∃ f, faultOf x = some f ∧ ¬ f.Reported

section One

variable {α : Type} {f : Fault}

@[simp] theorem not_escapes_ok {a : α} : ¬ Escapes (.ok a) := by simp [Escapes, faultOf]

@[simp] theorem escapes_error : Escapes (.error f : Except Fault α) ↔ ¬ f.Reported := by
  simp [Escapes, faultOf]

theorem escapes_textOf {v : Value} : Escapes (textOf v) ↔ v.Endless := by
  rw [← Value.display?_eq_none_iff, textOf]
  cases v.display? with
  | some s => simp
  | none => simp [Fault.Reported]

theorem not_escapes_fieldsAt {place : Place} {v : Value} : ¬ Escapes (fieldsAt place v) := by
  rw [fieldsAt]
  split
  · exact not_escapes_ok
  · exact not_escapes_ok
  · simp [Fault.Reported]

theorem not_escapes_weightKey {key : String} {k : Value} : ¬ Escapes (weightKey key k) := by
  rw [weightKey]
  split
  · exact not_escapes_ok
  · simp [Fault.Reported]

theorem nameOf?_of_endless {v : Value} (h : v.Endless) : nameOf? v = none := by
  unfold nameOf?
  rw [if_pos h.isTruthy]
  cases v with
  | text s => simp [Value.Endless, Value.integersIn] at h
  | _ => rfl

/-- A name that is looked up is shown if it is unknown, and an endless value is no name. -/
theorem escapes_lookup {x : Except Fault α} {v : Value} (ofName? : String → Option α)
    {unknown : String → Fault} (hreported : ∀ s, (unknown s).Reported)
    (hknown : ∀ a, (nameOf? v).bind ofName? = some a → x = .ok a)
    (hunknown : (nameOf? v).bind ofName? = none → x = shown v >>= fun s => .error (unknown s)) :
    Escapes x ↔ v.Endless := by
  cases hname : (nameOf? v).bind ofName? with
  | some a =>
    rw [hknown a hname]
    refine iff_of_false not_escapes_ok fun h => ?_
    rw [nameOf?_of_endless h] at hname
    cases hname
  | none =>
    rw [hunknown hname, ← Value.expression?_eq_none_iff, shown]
    cases v.expression? with
    | some s =>
      exact iff_of_false (fun h => escapes_error.1 h (hreported s)) (Option.some_ne_none s)
    | none => exact iff_of_true (escapes_error.2 id) rfl

theorem escapes_terminationOf {key : String} {fields : Fields} :
    Escapes (terminationOf key fields) ↔ (fieldOf fields "termination").Endless := by
  have hreported : ∀ s, (Fault.unknownTermination key s).Reported := fun _ => trivial
  refine escapes_lookup Termination.ofName? hreported (fun a h => ?_) fun h => ?_
  · simp only [terminationOf, h]
    rfl
  · simp only [terminationOf, h]
    rfl

theorem escapes_policyOf {key : String} {fields : Fields} :
    Escapes (policyOf key fields) ↔
      (fieldOf fields "insecureEdgeTerminationPolicy").Endless := by
  have hreported : ∀ s, (Fault.unknownPolicy key s).Reported := fun _ => trivial
  refine escapes_lookup InsecurePolicy.ofName? hreported (fun a h => ?_) fun h => ?_
  · simp only [policyOf, h]
    rfl
  · simp only [policyOf, h]
    rfl

theorem flagOf_eq {v : Value} (h : v.isFlag = false) :
    flagOf v = if v.isTruthy then .error (.notFlag v.fullTypeName) else .ok false := by
  cases v with
  | bool _ | text _ | bytes _ => cases h
  | _ => rfl

theorem escapes_flagOf {v : Value} : Escapes (flagOf v) ↔ v.isTruthy = true ∧ v.isFlag = false := by
  cases hflag : v.isFlag with
  | true =>
    refine iff_of_false ?_ fun h => by cases h.2
    cases v with
    | bool _ | text _ | bytes _ => exact not_escapes_ok
    | _ => cases hflag
  | false =>
    rw [flagOf_eq hflag]
    cases v.isTruthy with
    | false => simp
    | true => simp [Fault.Reported]

theorem escapes_weightOf {key : String} {v : Value} :
    Escapes (weightOf key v) ↔ ∃ negative, v = .float (.infinite negative) := by
  cases v with
  | bool _ | int _ => simp [weightOf]
  | float x =>
    cases x <;>
      simp [weightOf, Decimal.Binary64.truncate?, Fault.Reported]
  | text _ | bytes _ =>
    refine iff_of_false ?_ (by simp)
    simp only [weightOf]
    split
    · exact not_escapes_ok
    · simp [Fault.Reported]
  | _ => simp [weightOf, Fault.Reported]

theorem escapes_endpointValues {v : Value} :
    Escapes (endpointValues v) ↔ v.isTruthy = true ∧ v.unfolded.hasParts = false := by
  unfold endpointValues
  cases v.isTruthy with
  | false => simp
  | true =>
    cases v.unfolded <;> simp [Value.hasParts, Fault.Reported]

end One

/-- A reading fails and is not reported exactly if its part of the document is unconvertible. -/
theorem Reading.unconvertible_iff (r : Reading) :
    r.Unconvertible ↔ ∃ f, r.fault? = some f ∧ ¬ f.Reported := by
  cases r with
  | mapping place v => exact iff_of_false id not_escapes_fieldsAt
  | text v => exact escapes_textOf.symm
  | flag v => exact escapes_flagOf.symm
  | termination key fields => exact escapes_terminationOf.symm
  | policy key fields => exact escapes_policyOf.symm
  | weightKey key k => exact iff_of_false id not_escapes_weightKey
  | weight key v => exact escapes_weightOf.symm
  | endpoints v => exact escapes_endpointValues.symm
  | ip name index fields =>
    refine iff_of_false id ?_
    rintro ⟨f, hf, hreported⟩
    rw [fault?, Option.ite_none_left_eq_some] at hf
    obtain rfl := Option.some.inj hf.2
    exact hreported trivial

/-! ## A text -/

theorem escapes_ofValue (settings : Settings) (override : Override) {v : Value} :
    Escapes (ofValue settings override v) ↔ BreaksAt override v := by
  have hfault : faultOf (ofValue settings override v) = _ := follows_ofValue settings override v
  rw [Escapes, hfault, List.findSome?_eq_bind_find?, BreaksAt]
  show _ ↔ ∃ r, (readings override v).find? (fun r => r.fault?.isSome) = some r ∧ r.Unconvertible
  cases (readings override v).find? fun r => r.fault?.isSome with
  | none => simp
  | some r => simp [r.unconvertible_iff]

theorem escapes_documentOf {text : String} : Escapes (documentOf text) ↔ BreaksReader text := by
  unfold documentOf BreaksReader
  cases looksLikeJson text with
  | true =>
    refine iff_of_false ?_ fun h => by cases h.1
    rw [if_pos rfl]
    split
    · exact not_escapes_ok
    · exact fun h => escapes_error.1 h rfl
  | false =>
    rw [if_neg Bool.false_ne_true, ← Yaml.wild_read_iff]
    cases Yaml.read text with
    | error f => simp [Fault.Reported]
    | ok vs =>
      refine iff_of_false ?_ fun h => Yaml.not_wild_ok vs h.2
      split
      · exact not_escapes_ok
      · exact fun h => escapes_error.1 h trivial
      · rename_i h
        cases h

theorem escapes_ofText (settings : Settings) (override : Override) (text : String) :
    Escapes (ofText settings override text) ↔
      BreaksReader text ∨ ∃ v, documentOf text = .ok v ∧ BreaksAt override v := by
  rw [← escapes_documentOf, ofText]
  cases documentOf text with
  | error f => simp [bind, Except.bind]
  | ok v => simp [← escapes_ofValue settings override, bind, Except.bind]

end Snapshot

end ProxyMaps
