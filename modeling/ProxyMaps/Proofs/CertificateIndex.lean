/-
What the index of certificates counts: the routes that carry a certificate with
the same contents, each route once however many of its keys hold it.

One more route is a fold over its contents, which are listed without
repetition, so each of its counts goes up by one (`findD_addRoute`). What has
been counted is listed and nothing else (`find?_ofRoutes`), so neither the order
of the routes nor that of their certificates is any matter to the index
(`counts_exact`).
-/
import ProxyMaps.Proofs.Lists
import ProxyMaps.Proofs.Table
import ProxyMaps.Snapshot

namespace ProxyMaps

/-- A route has a certificate with the given contents, under whatever key. -/
def Route.Carries (r : Route) (contents : String) : Prop :=
  ∃ c ∈ r.certificates.values, c.contents = contents

instance (r : Route) (contents : String) : Decidable (r.Carries contents) :=
  inferInstanceAs (Decidable (∃ c ∈ r.certificates.values, c.contents = contents))

theorem Route.nodup_certificateContents (r : Route) : r.certificateContents.Nodup :=
  List.nodup_eraseDups _

theorem Route.mem_certificateContents {r : Route} {contents : String} :
    contents ∈ r.certificateContents ↔ contents ≠ "" ∧ r.Carries contents := by
  simp only [certificateContents, Carries, List.mem_eraseDups, List.mem_filterMap,
    Option.ite_none_left_eq_some, Option.some.injEq, String.isEmpty_iff]
  constructor
  · intro h
    obtain ⟨c, hc, hne, rfl⟩ := h
    exact ⟨hne, c, hc, rfl⟩
  · intro h
    obtain ⟨hne, c, hc, rfl⟩ := h
    exact ⟨c, hc, hne, rfl⟩

namespace CertificateIndex

theorem findD_foldl_insert (index : CertificateIndex) (cs : List String) (c : String) :
    (cs.foldl (fun i c => i.insert c (i.findD c 0 + 1)) index).findD c 0 =
      index.findD c 0 + cs.count c := by
  induction cs generalizing index with
  | nil => simp
  | cons d cs ih =>
    rw [List.foldl_cons, ih, Table.findD_insert, List.count_cons]
    by_cases h : c = d
    · subst h
      simp only [if_pos, beq_self_eq_true]
      omega
    · simp [h, Ne.symm h]

theorem findD_addRoute (index : CertificateIndex) (r : Route) (c : String) :
    (index.addRoute r.certificateContents).findD c 0 =
      index.findD c 0 + if c ∈ r.certificateContents then 1 else 0 := by
  rw [addRoute, findD_foldl_insert, r.nodup_certificateContents.count]

/-- The count of some contents is the number of routes that carry them. -/
theorem findD_ofRoutes (routes : Routes) {c : String} (hc : c ≠ "") :
    (ofRoutes routes).findD c 0 = routes.entries.countP fun e => e.2.Carries c := by
  have hfold : ∀ (es : List (String × Route)) (index : CertificateIndex),
      ((es.map Prod.snd).foldl (fun i r => addRoute i r.certificateContents) index).findD c 0 =
        index.findD c 0 + es.countP fun e => e.2.Carries c := by
    intro es
    induction es with
    | nil => simp
    | cons e es ih =>
      intro index
      rw [List.map_cons, List.foldl_cons, ih, findD_addRoute, List.countP_cons, Nat.add_assoc,
        Nat.add_comm (List.countP _ es)]
      simp [Route.mem_certificateContents, hc]
  rw [ofRoutes, Table.values, hfold]
  exact Nat.zero_add _

/-- The count does not exceed one for contents that no route but one carries. -/
theorem findD_ofRoutes_le_one_iff {routes : Routes} {key c : String} {r : Route}
    (hr : (key, r) ∈ routes.entries) (hc : c ≠ "") (hcarries : r.Carries c) :
    (ofRoutes routes).findD c 0 ≤ 1 ↔ ∀ e ∈ routes.entries, e.1 ≠ key → ¬ e.2.Carries c := by
  obtain ⟨front, back, hsplit⟩ := List.append_of_mem hr
  have hnodup := routes.nodup
  rw [hsplit, List.map_append, List.map_cons, List.nodup_middle, List.nodup_cons,
    List.mem_append] at hnodup
  have hother : ∀ e, e ∈ front ∨ e ∈ back → e.1 ≠ key := by
    rintro e (he | he) rfl
    · exact hnodup.1 (.inl (List.mem_map.2 ⟨e, he, rfl⟩))
    · exact hnodup.1 (.inr (List.mem_map.2 ⟨e, he, rfl⟩))
  rw [findD_ofRoutes routes hc, hsplit, List.countP_append,
    List.countP_cons_of_pos (by simpa using hcarries)]
  have hzero :
      front.countP (fun e => e.2.Carries c) + (back.countP (fun e => e.2.Carries c) + 1) ≤ 1 ↔
      front.countP (fun e => e.2.Carries c) = 0 ∧ back.countP (fun e => e.2.Carries c) = 0 := by
    omega
  rw [hzero, List.countP_eq_zero, List.countP_eq_zero]
  simp only [decide_eq_true_eq, List.mem_append, List.mem_cons]
  constructor
  · rintro ⟨hf, hb⟩ e (he | rfl | he) hne
    · exact hf e he
    · exact absurd rfl hne
    · exact hb e he
  · intro h
    exact ⟨fun e he => h e (.inl he) (hother e (.inl he)),
      fun e he => h e (.inr (.inr he)) (hother e (.inr he))⟩

/-! ## What is listed -/

theorem mem_keys_addRoute {index : CertificateIndex} {cs : List String} {c : String} :
    c ∈ (index.addRoute cs).keys ↔ c ∈ index.keys ∨ c ∈ cs := by
  induction cs generalizing index with
  | nil => simp [addRoute]
  | cons d cs ih =>
    have hstep : index.addRoute (d :: cs) = addRoute (index.insert d (index.findD d 0 + 1)) cs :=
      rfl
    rw [hstep, ih, Table.mem_keys_insert, List.mem_cons, or_assoc]

theorem mem_keys_ofRoutes {routes : Routes} {c : String} :
    c ∈ (ofRoutes routes).keys ↔ c ≠ "" ∧ ∃ e ∈ routes.entries, e.2.Carries c := by
  have hfold : ∀ (es : List (String × Route)) (index : CertificateIndex),
      c ∈ ((es.map Prod.snd).foldl (fun i r => addRoute i r.certificateContents) index).keys ↔
        c ∈ index.keys ∨ ∃ e ∈ es, c ∈ e.2.certificateContents := by
    intro es
    induction es with
    | nil => simp
    | cons e es ih =>
      intro index
      rw [List.map_cons, List.foldl_cons, ih, mem_keys_addRoute, or_assoc, List.exists_mem_cons_iff]
  rw [ofRoutes, Table.values, hfold]
  simp only [Table.keys_empty, List.not_mem_nil, false_or, Route.mem_certificateContents]
  constructor
  · rintro ⟨e, he, hc, hcarries⟩
    exact ⟨hc, e, he, hcarries⟩
  · rintro ⟨hc, e, he, hcarries⟩
    exact ⟨e, he, hc, hcarries⟩

/-- What the index says of some contents: the number of the routes that carry them, if any does. -/
theorem find?_ofRoutes (routes : Routes) (c : String) :
    (ofRoutes routes).find? c =
      if c ≠ "" ∧ ∃ e ∈ routes.entries, e.2.Carries c
      then some (routes.entries.countP fun e => e.2.Carries c) else none := by
  split
  next h => rw [Table.find?_eq_some_findD (mem_keys_ofRoutes.2 h) 0, findD_ofRoutes routes h.1]
  next h => exact Table.find?_eq_none_iff.2 (mt mem_keys_ofRoutes.1 h)

/-! ## Order -/

/-- Routes with the same certificates, but for the order of the routes and that of the
certificates of each. -/
def SameCertificates (routes routes' : Routes) : Prop :=
  ∃ es : List (String × Route), es.Perm routes.entries ∧
    List.Forall₂ (fun e e' => e.2.certificates.entries.Perm e'.2.certificates.entries)
      es routes'.entries

theorem carries_iff_of_perm {r r' : Route}
    (h : r.certificates.entries.Perm r'.certificates.entries) (c : String) :
    r.Carries c ↔ r'.Carries c := by
  have hvalues : r.certificates.values.Perm r'.certificates.values := h.map _
  simp only [Route.Carries, hvalues.mem_iff]

/-- Another order changes no count. -/
theorem SameCertificates.countP_eq {routes routes' : Routes} (h : SameCertificates routes routes')
    (c : String) :
    routes'.entries.countP (fun e => e.2.Carries c) =
      routes.entries.countP (fun e => e.2.Carries c) := by
  obtain ⟨es, hperm, hsame⟩ := h
  rw [← hperm.countP_eq]
  generalize routes'.entries = es' at hsame
  clear hperm
  induction hsame with
  | nil => rfl
  | cons he _ ih =>
    rw [List.countP_cons, List.countP_cons, ih]
    simp only [carries_iff_of_perm he]

/-- **The certificate index.** It lists the contents that are not empty and that
some route carries, with the number of the routes that do, each counted once.
The order of the routes and of their certificates is no matter. -/
theorem counts_exact (routes : Routes) (c : String) :
    ((ofRoutes routes).contains c = true ↔
      c ≠ "" ∧ ∃ e ∈ routes.entries, e.2.Carries c) ∧
    ((ofRoutes routes).contains c = true →
      (ofRoutes routes).find? c = some (routes.entries.countP fun e => e.2.Carries c)) ∧
    ∀ routes' : Routes, SameCertificates routes routes' →
      (ofRoutes routes').find? c = (ofRoutes routes).find? c := by
  have hlisted : (ofRoutes routes).contains c = true ↔
      c ≠ "" ∧ ∃ e ∈ routes.entries, e.2.Carries c := by
    rw [Table.contains_iff_mem_keys, mem_keys_ofRoutes]
  refine ⟨hlisted, fun h => ?_, fun routes' hsame => ?_⟩
  · rw [find?_ofRoutes, if_pos (hlisted.1 h)]
  · have hcount := hsame.countP_eq c
    -- a route carries the contents exactly if their number is positive
    have hsome : (∃ e ∈ routes'.entries, e.2.Carries c) ↔ ∃ e ∈ routes.entries, e.2.Carries c := by
      simpa using congrArg (0 < ·) hcount
    rw [find?_ofRoutes, find?_ofRoutes, hcount]
    simp only [hsome]

theorem counts_exact_shared :
    let shared : Certificate := ⟨"c", "PEM"⟩
    let twice : Route := { certificates := ⟨[("h", shared), ("ca", shared)], by decide⟩ }
    let once : Route := { certificates := ⟨[("ca", ⟨"d", ""⟩), ("h", shared)], by decide⟩ }
    let swapped : Route := { certificates := ⟨[("h", shared), ("ca", ⟨"d", ""⟩)], by decide⟩ }
    let routes : Routes := ⟨[("n:a", twice), ("n:b", once)], by decide⟩
    let routes' : Routes := ⟨[("n:b", swapped), ("n:a", twice)], by decide⟩
    (ofRoutes routes).find? "PEM" = some 2 ∧ (ofRoutes routes).contains "" = false ∧
      SameCertificates routes routes' ∧ (ofRoutes routes').find? "PEM" = some 2 := by
  intro shared twice once swapped routes routes'
  obtain ⟨hlisted, hcount, horder⟩ := counts_exact routes "PEM"
  have hcarries : twice.Carries "PEM" := by decide
  have htwo : (ofRoutes routes).find? "PEM" = some 2 :=
    hcount (hlisted.2 ⟨by decide, _, .head _, hcarries⟩)
  have hsame : SameCertificates routes routes' :=
    ⟨[("n:b", once), ("n:a", twice)], .swap _ _ _, .cons (.swap _ _ _) (.cons (.refl _) .nil)⟩
  have hempty : ¬ (ofRoutes routes).contains "" = true := fun h =>
    ((counts_exact routes "").1.1 h).1 rfl
  exact ⟨htwo, Bool.eq_false_iff.2 hempty, hsame, (horder routes' hsame).trans htwo⟩

end CertificateIndex

end ProxyMaps
