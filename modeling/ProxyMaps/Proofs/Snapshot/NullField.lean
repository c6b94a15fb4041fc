/-
Null in an optional field. Most fields take it for the field missing. Two kinds
do not: a field whose text is taken as it comes has the text of null, and null
turns the switch of HTTP/2 off, whatever the settings say.

So null loads as what it is read as, in every document; it loads as the field
missing in every document exactly where that is what it is read as
(`null_loads`). Where it is not, a document around the field alone tells the
two apart (`Part.sample`).
-/
import ProxyMaps.Proofs.Snapshot.OptionalField

namespace ProxyMaps.Snapshot

/-- What null in a field is read as: as the field missing, or as a value. -/
def Fallback.ofNull : Fallback → Option Value
  | .null | .no => none
  | .setting => some (.bool false)
  | .text => some (.text "None")

/-- Null in a field comes to the field missing. -/
def Fallback.NullIsMissing (settings : Settings) (override : Override) : Fallback → Prop
  | .null | .no => True
  | .setting => override.http2Disabled.isSome ∨ settings.http2Disabled = false
  | .text => False

/-- Null in chosen fields, for which the other document says something else or nothing. -/
def nullIn (chosen : OptionalField → Prop) (other : OptionalField → Option Value) : Change :=
  fun f x y => chosen f ∧ x = some .null ∧ y = other f

section Harmless

variable {settings : Settings} {override : Override} {chosen : OptionalField → Prop}

theorem Fallback.same_ofNull (k : Fallback) : k.Same settings override (some .null) k.ofNull := by
  cases k with
  | null => exact rfl
  | no => exact rfl
  | setting => exact .inr rfl
  | text => exact fun _ => rfl

theorem Fallback.NullIsMissing.same {k : Fallback} (h : k.NullIsMissing settings override) :
    k.Same settings override (some .null) none := by
  cases k with
  | null => exact rfl
  | no => exact rfl
  | setting =>
    refine h.imp_right fun hoff => ?_
    rw [hoff]
    rfl
  | text => exact h.elim

theorem harmless_ofNull :
    (nullIn chosen fun f => f.fallback.ofNull).Harmless settings override := by
  intro f _ x y h
  obtain ⟨-, rfl, rfl⟩ := h
  exact f.fallback.same_ofNull

theorem harmless_missing
    (h : ∀ f ∈ optionalFields, chosen f → f.fallback.NullIsMissing settings override) :
    (nullIn chosen fun _ => none).Harmless settings override := by
  intro f hf x y hxy
  obtain ⟨hchosen, rfl, rfl⟩ := hxy
  exact (h f hf hchosen).same

end Harmless

/-! ## A document around one mapping -/

/-- Mappings of one entry each around a value. -/
def under (names : List String) (v : Value) : Value :=
  names.foldr (fun name v => .mapping [(.text name, v)]) v

/-- A document around one mapping, which has the given fields beside those that it must have. -/
def Part.sample : Part → Fields → Value
  | .whole, fields => .mapping fields
  | .route, fields => under ["routes", "r"] (.mapping fields)
  | .certificate, fields => under ["routes", "r", "certificates", "c"] (.mapping fields)
  | .unit, fields => under ["serviceUnits", "s"] (.mapping fields)
  | .endpoint, fields =>
    under ["serviceUnits", "s", "endpoints"] (.list [.mapping (fields ++ [(.text "ip", .text "")])])

section Sample

variable {c : Change} {part : Part} {inside : String → Value → Value → Prop} {v w : Value}

theorem field?_cons (name name' : String) (v : Value) (es : Fields) :
    Value.field? ((.text name, v) :: es) name' =
      if name = name' then some v else Value.field? es name' := by
  have hkey : (Value.text name).sameKey (.text name') = decide (name = name') := rfl
  unfold Value.field?
  by_cases h : name = name'
  · rw [if_pos h, List.find?_cons_of_pos (by rw [hkey, decide_eq_true h])]
    rfl
  · rw [if_neg h, List.find?_cons_of_neg (by simp [hkey, h])]

theorem MappingAlike.one {name : String} (h : inside name v w) :
    MappingAlike c part inside (under [name] v) (under [name] w) := by
  refine .fields rfl rfl fun name' => ?_
  rw [field?_cons, field?_cons]
  by_cases hname : name = name'
  · rw [if_pos hname, if_pos hname]
    exact .inside (hname ▸ h)
  · rw [if_neg hname, if_neg hname]
    exact .same _

theorem EntriesAlike.one {R : Value → Value → Prop} (name : String) (h : R v w) :
    EntriesAlike R (under [name] v) (under [name] w) :=
  ⟨_, _, rfl, rfl, .cons ⟨rfl, h⟩ .nil⟩

theorem MappingAlike.missing {chosen : OptionalField → Prop} {f : OptionalField} {es : Fields}
    (hf : f ∈ optionalFields) (hchosen : chosen f) (hes : Value.field? es f.name = none) :
    MappingAlike (nullIn chosen fun _ => none) f.part inside
      (.mapping ((.text f.name, .null) :: es)) (.mapping es) := by
  refine .fields rfl rfl fun name => ?_
  rw [field?_cons]
  by_cases hname : f.name = name
  · rw [if_pos hname]
    exact .changed hf rfl hname ⟨hchosen, rfl, hname ▸ hes⟩
  · rw [if_neg hname]
    exact .same _

theorem alike_sample {chosen : OptionalField → Prop} {f : OptionalField} (hf : f ∈ optionalFields)
    (hchosen : chosen f) :
    Alike (nullIn chosen fun _ => none) (f.part.sample [(.text f.name, .null)])
      (f.part.sample []) := by
  have hip : ∀ f ∈ optionalFields, Value.field? [(.text "ip", .text "")] f.name = none := by
    decide
  obtain ⟨part, name, fallback⟩ := f
  cases part with
  | whole => exact .missing hf hchosen rfl
  | route => exact .one (.inl ⟨rfl, .one "r" (.missing hf hchosen rfl)⟩)
  | certificate =>
    exact .one (.inl ⟨rfl, .one "r" (.one ⟨rfl, .one "c" (.missing hf hchosen rfl)⟩)⟩)
  | unit => exact .one (.inr ⟨rfl, .one "s" (.missing hf hchosen rfl)⟩)
  | endpoint =>
    have hitems : ItemsAlike (EndpointAlike (nullIn chosen fun _ => none))
        (.list [.mapping [(.text name, .null), (.text "ip", .text "")]])
        (.list [.mapping [(.text "ip", .text "")]]) :=
      ⟨_, _, rfl, rfl, .cons (.missing hf hchosen (hip _ hf)) .nil⟩
    exact .one (.inr ⟨rfl, .one "s" (.one ⟨rfl, hitems⟩)⟩)

end Sample

section Texts

variable {settings : Settings} {override : Override} {v : Value} {es : Fields}

/-- The texts that a snapshot takes from a document as they come. -/
def texts (s : Snapshot) : List String :=
  (s.routes.values.flatMap fun r =>
    r.name :: r.nameSpace :: r.certificates.values.flatMap fun c => [c.id, c.contents]) ++
  s.units.values.flatMap fun u =>
    u.endpoints.flatMap fun e => [e.id, e.port, e.targetName, e.portName]

/-- Neither the settings nor the caller say anything about routes and services. -/
theorem texts_ofValue (hv : v.unfolded = .mapping es) (hdir : Value.field? es "workingDir" = none)
    (hflag : Value.field? es "disableHTTP2" = none) :
    (ofValue settings override v).toOption.map texts = (ofValue {} {} v).toOption.map texts := by
  have hdir' : ∀ default, filledField es "workingDir" default = .ok default := by
    intro default
    rw [filledField, fieldOf, hdir]
    rfl
  have hflag' : ∀ default, flagField es "disableHTTP2" default = .ok default := by
    intro default
    rw [flagField, hflag]
  unfold ofValue
  simp only [fieldsAt_of_mapping .whole hv, bind, Except.bind, hdir', hflag']
  -- the routes and the services, each first as a mapping and then entry by entry
  split
  · rfl
  split
  · rfl
  split
  · rfl
  split
  · rfl
  obtain ⟨_ | dir, _ | off⟩ := override <;> rfl

theorem texts_sample_ne : ∀ f ∈ optionalFields, f.fallback = .text →
    (ofValue {} {} (f.part.sample [(.text f.name, .null)])).toOption.map texts ≠
      (ofValue {} {} (f.part.sample [])).toOption.map texts := by
  decide +kernel

theorem texts_sample {part : Part} (hpart : part ≠ .whole) (fields : Fields) :
    (ofValue settings override (part.sample fields)).toOption.map texts =
      (ofValue {} {} (part.sample fields)).toOption.map texts := by
  cases part with
  | whole => exact absurd rfl hpart
  | route | certificate | unit | endpoint => exact texts_ofValue rfl rfl rfl

/-- A field whose null is not missing has a document that tells the two apart: the one around
the field alone. -/
theorem nullIsMissing_of_sample {f : OptionalField} (hf : f ∈ optionalFields)
    (h : ofValue settings override (f.part.sample [(.text f.name, .null)]) =
      ofValue settings override (f.part.sample [])) :
    f.fallback.NullIsMissing settings override := by
  have hpart : ∀ f ∈ optionalFields, f.fallback = .text → f.part ≠ .whole := by decide
  have hswitch : ∀ f ∈ optionalFields, f.fallback = .setting →
      f.part = .whole ∧ f.name = "disableHTTP2" := by decide
  cases hk : f.fallback with
  | null => trivial
  | no => trivial
  | setting =>
    obtain ⟨hwhole, hname⟩ := hswitch f hf hk
    obtain ⟨dir, _ | off⟩ := override
    · rw [hwhole, hname] at h
      have hoff := congrArg (fun r => r.toOption.map Snapshot.http2Disabled) h
      cases dir <;> exact .inr (Option.some.inj hoff).symm
    · exact .inl rfl
  | text =>
    have htexts := congrArg (fun r => r.toOption.map texts) h
    simp only [texts_sample (hpart f hf hk)] at htexts
    exact absurd htexts (texts_sample_ne f hf hk)

end Texts

/-- Null in chosen optional fields, wherever they are, loads as what it is read as. It loads as
these fields missing, in every document, exactly if it comes to that in each of them. -/
theorem null_loads (settings : Settings) (override : Override) (chosen : OptionalField → Prop) :
    (∀ v w, Alike (nullIn chosen fun f => f.fallback.ofNull) v w →
      ofValue settings override v = ofValue settings override w) ∧
    ((∀ v w, Alike (nullIn chosen fun _ => none) v w →
        ofValue settings override v = ofValue settings override w) ↔
      ∀ f ∈ optionalFields, chosen f → f.fallback.NullIsMissing settings override) := by
  refine ⟨fun v w h => h.ofValue_eq harmless_ofNull, fun h f hf hchosen => ?_,
    fun h v w hvw => hvw.ofValue_eq (harmless_missing h)⟩
  exact nullIsMissing_of_sample hf (h _ _ (alike_sample hf hchosen))

/-- Contents that are null are counted as a certificate; contents that are missing are not. -/
theorem null_contents_counted :
    (ofValue {} {} (Part.certificate.sample [(.text "contents", .null)])).toOption.map
        (fun s => s.certificateIndex.entries) = some [("None", 1)] ∧
      (ofValue {} {} (Part.certificate.sample [])).toOption.map
        (fun s => s.certificateIndex.entries) = some [] :=
  ⟨rfl, rfl⟩

end ProxyMaps.Snapshot
