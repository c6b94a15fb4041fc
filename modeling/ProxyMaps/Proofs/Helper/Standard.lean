/-
Calls of the helpers that templates have. Their names differ and no signature
is refused, so every one of them is registered (`find?_standard`), and a call
with as many arguments as a helper takes runs it (`call_standard`).
-/
import ProxyMaps.Helper.Standard
import ProxyMaps.Proofs.Helper.Registry

namespace ProxyMaps.Helper

open Registry (Request)

/-- A registered entry. -/
def Entry.helper (e : Entry) (arity : Arity) : Helper Argument (Run Argument) :=
  ⟨e.name, arity, e.description, e.run⟩

/-- The request that registers an entry. -/
def Entry.request (e : Entry) : Request Argument (Run Argument) :=
  .register e.name e.signature e.run e.description

theorem addEntry_eq (r : Registry Argument (Run Argument)) (e : Entry) :
    addEntry r e = e.request.perform r := by
  simp only [addEntry, Entry.request, Request.perform]
  cases r.register e.name e.signature e.run e.description <;> rfl

theorem foldl_addEntry (es : List Entry) :
    es.foldl addEntry .empty = Registry.after (es.map Entry.request) := by
  rw [Registry.after, List.foldl_map]
  exact congrArg (fun f => es.foldl f .empty) (funext₂ addEntry_eq)

theorem name_of_helper? {e : Entry} {h : Helper Argument (Run Argument)}
    (hh : e.request.helper? = some h) : h.name = e.name := by
  obtain ⟨arity, -, rfl⟩ := Option.map_eq_some_iff.1 hh
  rfl

/-- An entry among others of other names is the first one of its name. -/
theorem first?_entries {es : List Entry} {e : Entry} {arity : Arity} (hmem : e ∈ es)
    (hnames : (es.map Entry.name).Nodup) (harity : Arity.ofSignature e.signature = .ok arity) :
    Registry.first? (es.map Entry.request) e.name = some (e.helper arity) := by
  induction es with
  | nil => cases hmem
  | cons f es ih =>
    obtain ⟨hf, hes⟩ := List.nodup_cons.1 hnames
    rw [Registry.first?, List.map_cons, List.filterMap_cons]
    rcases List.mem_cons.1 hmem with rfl | hmem
    · have hhelper : e.request.helper? = some (e.helper arity) := by
        rw [Entry.request, Request.helper?, harity]
        rfl
      rw [hhelper]
      exact List.find?_cons_of_pos (by simp [Entry.helper])
    · have hne : f.name ≠ e.name := fun h => hf (h ▸ List.mem_map_of_mem hmem)
      cases hhelper : f.request.helper? with
      | none => exact ih hmem hes
      | some h =>
        dsimp only
        rw [List.find?_cons_of_neg (by simpa [name_of_helper? hhelper] using hne)]
        exact ih hmem hes

/-! ## All helpers -/

variable [Text.CharacterNames]

theorem nodup_names (around : Surroundings) : ((entries around).map Entry.name).Nodup := by
  have hnames : (entries around).map Entry.name =
      ["endpointsForAlias", "processEndpointsForAlias", "env", "matchPattern", "isInteger",
        "matchValues", "genSubdomainWildcardRegexp", "generateRouteRegexp",
        "genCertificateHostName", "genBackendNamePrefix", "isTrue", "firstMatch",
        "getHTTPAliasesGroupedByHost", "getPrimaryAliasKey", "generateHAProxyMap",
        "validateHAProxyAllowlist", "generateHAProxyAllowlistFile", "clipHAProxyTimeoutValue",
        "parseIPList", "indent", "processRewriteTarget"] := rfl
  rw [hnames]
  decide

@[simp] theorem length_patternEntries : patternEntries.length = 9 := rfl

theorem pattern_mem_entries {around : Surroundings} {i : Nat} (h : i < patternEntries.length) :
    patternEntries[i] ∈ entries around :=
  List.mem_append_left _ (List.mem_append_left _ (List.mem_append_right _ (List.getElem_mem h)))

theorem sanitizer_mem_entries {around : Surroundings} {i : Nat} (h : i < annotationEntries.length) :
    annotationEntries[i] ∈ entries around :=
  List.mem_append_right _ (List.getElem_mem h)

theorem find?_standard {around : Surroundings} {e : Entry} {arity : Arity}
    (hmem : e ∈ entries around) (harity : Arity.ofSignature e.signature = .ok arity) :
    (standard around).find? e.name = some (e.helper arity) := by
  rw [standard, foldl_addEntry, Registry.find?_after]
  exact first?_entries hmem (nodup_names around) harity

/-- A call with as many arguments as a helper takes runs the helper. -/
theorem call_standard {around : Surroundings} {e : Entry} {arity : Arity} {args : List Argument}
    (hmem : e ∈ entries around) (harity : Arity.ofSignature e.signature = .ok arity)
    (haccepts : arity.accepts args.length = true) :
    (standard around).call e.name args = .ok (e.run args) := by
  rw [Registry.call, Registry.lookup, find?_standard hmem harity]
  exact if_pos haccepts

end ProxyMaps.Helper
