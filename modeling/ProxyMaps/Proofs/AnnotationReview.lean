/-
Reviews of annotations. A review lists the timeouts and the allowlists whose
values the router would change, and nothing else (`lists_ofRoutes`). What takes
effect of a value takes effect as it is (`effect_idem`), so nothing is left to
list once the routes have what takes effect in place of every value that an
earlier review lists (`ofRoutes_adopted`).
-/
import ProxyMaps.AnnotationReview
import ProxyMaps.Json.Writer
import ProxyMaps.Proofs.Allowlist
import ProxyMaps.Proofs.AnnotationValue.Timeout
import ProxyMaps.Proofs.Table

namespace ProxyMaps

namespace AnnotationReview

open AnnotationValue (clipTimeout parseAddressList)

/-- A review: routes by their keys, each with the changes to its annotations. -/
abbrev Review := List (String × List AnnotationChange)

/-- A change that a review lists for a route. -/
def Lists (review : Review) (key : String) (c : AnnotationChange) : Prop :=
  ∃ found, (key, found) ∈ review ∧ c ∈ found

/-- The change that a review lists for an annotation of a route, if there is one. -/
def listed? (review : Review) (key name : String) : Option AnnotationChange :=
  (review.find? fun e => e.1 = key).bind fun e => e.2.find? fun c => c.name = name

/-- The annotations of routes, by the keys of the routes. -/
def annotations (routes : Routes) : Table String (Table String String) :=
  routes.mapValues fun _ r => r.annotations

/-- Annotations with what takes effect in place of every value that a review lists. -/
def adopt (review : Review) (all : Table String (Table String String)) :
    Table String (Table String String) :=
  all.mapValues fun key values => values.mapValues fun name given =>
    ((listed? review key name).map AnnotationChange.effective).getD given

/-! ## What takes effect -/

/-- What takes effect of the value of an annotation. -/
def effect (name : String) : String → String :=
  if name ∈ AnnotationName.timeouts then clipTimeout
  else if name ∈ AnnotationName.allowlists then parseAddressList
  else id

theorem effect_idem (name value : String) :
    effect name (effect name value) = effect name value := by
  unfold effect
  split
  · exact AnnotationValue.clipTimeout_idem value
  split
  · exact Allowlist.parseAddressList_idem value
  · rfl

theorem eq_effect_iff {name given effective : String} (hne : effective ≠ given) :
    effective = effect name given ↔
      name ∈ AnnotationName.timeouts ∧ effective = clipTimeout given ∨
        name ∈ AnnotationName.allowlists ∧ effective = parseAddressList given := by
  -- no annotation is both a timeout and an allowlist
  have hkinds : ∀ name ∈ AnnotationName.allowlists, name ∉ AnnotationName.timeouts := by decide
  by_cases htimeout : name ∈ AnnotationName.timeouts
  · have hallowlist : name ∉ AnnotationName.allowlists := fun h => hkinds name h htimeout
    simp [effect, htimeout, hallowlist]
  by_cases hallowlist : name ∈ AnnotationName.allowlists
  · simp [effect, htimeout, hallowlist]
  · simp [effect, htimeout, hallowlist, hne]

/-! ## What a review lists -/

section

variable {r : Route} {routes routes' : Routes} {key : String} {c : AnnotationChange}

theorem mem_changesBy {f : String → String} {names : List String} :
    c ∈ changesBy f names r ↔
      r.annotations.find? c.name = some c.given ∧ c.effective ≠ c.given ∧
        c.name ∈ names ∧ c.effective = f c.given := by
  unfold changesBy
  rw [List.mem_filterMap]
  constructor
  · rintro ⟨name, hname, h⟩
    simp only [Option.bind_eq_bind, Option.bind_eq_some_iff] at h
    obtain ⟨given, hgiven, h⟩ := h
    split at h
    · cases h
    next hne =>
      cases h
      exact ⟨hgiven, hne, hname, rfl⟩
  · rintro ⟨hgiven, hne, hname, heffective⟩
    refine ⟨c.name, hname, ?_⟩
    simp [hgiven, ← heffective, hne]

theorem mem_changes : c ∈ changes r ↔
    r.annotations.find? c.name = some c.given ∧ c.effective ≠ c.given ∧
      c.effective = effect c.name c.given := by
  rw [changes, List.mem_append, mem_changesBy, mem_changesBy, ← and_or_left, ← and_or_left]
  exact and_congr_right fun _ => and_congr_right fun hne => (eq_effect_iff hne).symm

theorem mem_ofRoutes {found : List AnnotationChange} : (key, found) ∈ ofRoutes routes ↔
    ∃ r, routes.find? key = some r ∧ found = changes r ∧ changes r ≠ [] := by
  simp only [ofRoutes, List.mem_filterMap, Option.bind_eq_bind, Option.bind_eq_some_iff]
  constructor
  · rintro ⟨_, -, r, hr, h⟩
    split at h
    · cases h
    next hsome =>
      cases h
      exact ⟨r, hr, rfl, by simpa using hsome⟩
  · rintro ⟨r, hr, rfl, hsome⟩
    have hkey : key ∈ sortedKeys routes := by
      rw [sortedKeys, (List.mergeSort_perm _ _).mem_iff, ← Table.contains_iff_mem_keys,
        Table.contains_eq_isSome, hr]
      rfl
    exact ⟨key, hkey, r, hr, by simp [hsome]⟩

theorem lists_ofRoutes : Lists (ofRoutes routes) key c ↔
    ∃ r, routes.find? key = some r ∧ c ∈ changes r := by
  constructor
  · rintro ⟨found, hfound, hc⟩
    obtain ⟨r, hr, rfl, -⟩ := mem_ofRoutes.1 hfound
    exact ⟨r, hr, hc⟩
  · rintro ⟨r, hr, hc⟩
    exact ⟨changes r, mem_ofRoutes.2 ⟨r, hr, rfl, List.ne_nil_of_mem hc⟩, hc⟩

/-! ## Adopting a review -/

theorem lists_of_listed? {review : Review} {name : String}
    (h : listed? review key name = some c) : Lists review key c ∧ c.name = name := by
  obtain ⟨⟨key', found⟩, hfound, hc⟩ := Option.bind_eq_some_iff.1 h
  have hkey : key' = key := by simpa using List.find?_some hfound
  have hname : c.name = name := by simpa using List.find?_some hc
  exact ⟨⟨found, hkey ▸ List.mem_of_find?_eq_some hfound, List.mem_of_find?_eq_some hc⟩, hname⟩

theorem exists_listed? (hc : Lists (ofRoutes routes) key c) :
    ∃ c', listed? (ofRoutes routes) key c.name = some c' := by
  obtain ⟨r, hr, hmem⟩ := lists_ofRoutes.1 hc
  obtain ⟨found, hfound, -⟩ := hc
  obtain ⟨⟨key', found'⟩, hfind⟩ := Option.isSome_iff_exists.1 <|
    List.find?_isSome (p := fun e => decide (e.1 = key)) |>.2 ⟨_, hfound, by simp⟩
  have hkey : key' = key := by simpa using List.find?_some hfind
  subst hkey
  -- whatever a review lists for a route are all the changes to it
  obtain ⟨r', hr', rfl, -⟩ := mem_ofRoutes.1 (List.mem_of_find?_eq_some hfind)
  obtain rfl := Option.some.inj (hr.symm.trans hr')
  obtain ⟨c', hc'⟩ := Option.isSome_iff_exists.1 <|
    List.find?_isSome (p := fun d : AnnotationChange => decide (d.name = c.name)) |>.2
      ⟨c, hmem, by simp⟩
  exact ⟨c', by rw [listed?, hfind]; exact hc'⟩

/-- What stands in the place of a value is what takes effect of it. -/
theorem adopted_eq_effect {name given : String} (hr : routes.find? key = some r)
    (hgiven : r.annotations.find? name = some given) :
    ((listed? (ofRoutes routes) key name).map AnnotationChange.effective).getD given =
      effect name given := by
  cases h : listed? (ofRoutes routes) key name with
  | some c =>
    obtain ⟨hlists, rfl⟩ := lists_of_listed? h
    obtain ⟨r', hr', hc⟩ := lists_ofRoutes.1 hlists
    obtain rfl := Option.some.inj (hr.symm.trans hr')
    obtain ⟨hgiven', -, heffective⟩ := mem_changes.1 hc
    obtain rfl := Option.some.inj (hgiven.symm.trans hgiven')
    exact heffective
  | none =>
    by_contra hne
    have hc : ⟨name, given, effect name given⟩ ∈ changes r :=
      mem_changes.2 ⟨hgiven, Ne.symm hne, rfl⟩
    obtain ⟨c', hc'⟩ := exists_listed? (lists_ofRoutes.2 ⟨r, hr, hc⟩)
    cases h.symm.trans hc'

theorem find?_annotations :
    (annotations routes).find? key = (routes.find? key).map Route.annotations :=
  Table.find?_mapValues _ routes key

/-- Routes that have adopted a review leave nothing to change. -/
theorem ofRoutes_adopted
    (h : annotations routes' = adopt (ofRoutes routes) (annotations routes)) :
    ofRoutes routes' = [] := by
  by_contra hne
  obtain ⟨⟨key, found⟩, hmem⟩ := List.exists_mem_of_ne_nil _ hne
  obtain ⟨r', hr', -, hsome⟩ := mem_ofRoutes.1 hmem
  obtain ⟨c, hc⟩ := List.exists_mem_of_ne_nil _ hsome
  obtain ⟨hgiven', hchanged, heffective⟩ := mem_changes.1 hc
  -- the value stands in the place of one of the same name
  have hadopted := congrArg (fun all => all.find? key) h
  simp only [adopt, Table.find?_mapValues, find?_annotations, hr', Option.map_some] at hadopted
  obtain ⟨values, hvalues, hr'⟩ := Option.map_eq_some_iff.1 hadopted.symm
  obtain ⟨r, hr, rfl⟩ := Option.map_eq_some_iff.1 hvalues
  rw [← hr', Table.find?_mapValues] at hgiven'
  obtain ⟨given, hgiven, hvalue⟩ := Option.map_eq_some_iff.1 hgiven'
  rw [adopted_eq_effect hr hgiven] at hvalue
  rw [← hvalue, effect_idem, hvalue] at heffective
  exact hchanged heffective

end

/-! ## The report -/

section

variable {layout : Json.Writer.Layout}

theorem exists_fields {level : Nat} {fs : List (String × Json)}
    (h : ∀ f ∈ fs, ∃ s, Json.Writer.value layout level f.2 = .ok s) :
    ∃ written, Json.Writer.fields layout level fs = .ok written := by
  induction fs with
  | nil => exact ⟨[], rfl⟩
  | cons f fs ih =>
    obtain ⟨s, hs⟩ := h f List.mem_cons_self
    obtain ⟨written, hwritten⟩ := ih fun f hf => h f (List.mem_cons_of_mem _ hf)
    exact ⟨(f.1, s) :: written, by rw [Json.Writer.fields, hs, hwritten]; rfl⟩

theorem exists_object {level : Nat} {fs : List (String × Json)}
    (hlevel : level < Json.Writer.maxDepth)
    (h : ∀ f ∈ fs, ∃ s, Json.Writer.value layout (level + 1) f.2 = .ok s) :
    ∃ s, Json.Writer.value layout level (.object fs) = .ok s := by
  obtain ⟨written, hwritten⟩ := exists_fields h
  exact ⟨_, by rw [Json.Writer.value, if_neg (Nat.not_le.2 hlevel), hwritten]; rfl⟩

/-- Every review can be printed. -/
theorem exists_write_toJson (layout : Json.Writer.Layout) (review : Review) :
    ∃ text, Json.write layout (toJson review) = .ok text := by
  have hreview : ∃ s, Json.Writer.value layout 0 (toJson review) = .ok s := by
    refine exists_object (by decide) fun f hf => ?_
    obtain ⟨e, -, rfl⟩ := List.mem_map.1 hf
    refine exists_object (by decide) fun f hf => ?_
    obtain ⟨c, -, rfl⟩ := List.mem_map.1 hf
    refine exists_object (by decide) fun f hf => ?_
    rcases List.mem_pair.1 hf with rfl | rfl
    · exact ⟨_, rfl⟩
    · exact ⟨_, rfl⟩
  obtain ⟨s, hs⟩ := hreview
  exact ⟨String.ofList s, by rw [Json.write, hs]; rfl⟩

end

end AnnotationReview

end ProxyMaps
