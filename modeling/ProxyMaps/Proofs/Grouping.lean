/-
Groups of routes by host, and the primary route of a group.

The group of a host is the table of its routes whose TLS the router looks into,
filtered out of all routes (`find?_groupedByHost`). The primary key is found in
a descending list of keys, so the first one that will do is the greatest one
that will (`isGreatestKey_of_find?`), and the order of the routes is no matter
(`primaryKey_eq_of_perm`).
-/
import Mathlib.Data.List.Induction
import ProxyMaps.Grouping
import ProxyMaps.Proofs.MapFile.Order
import ProxyMaps.Proofs.Table

namespace ProxyMaps.Routes

/-- A route that ends TLS at the router. -/
def EndsTls (r : Route) : Prop := r.termination = .edge ∨ r.termination = .reencrypt

instance : DecidablePred EndsTls := fun r =>
  inferInstanceAs (Decidable (r.termination = .edge ∨ r.termination = .reencrypt))

/-- A key is the greatest one of the routes with a property. -/
def IsGreatestKey (routes : Routes) (p : Route → Prop) (key : String) : Prop :=
  (∃ r, (key, r) ∈ routes.entries ∧ p r) ∧ ∀ k r, (k, r) ∈ routes.entries → p r → k ≤ key

theorem IsGreatestKey.unique {routes : Routes} {p : Route → Prop} {key key' : String}
    (h : routes.IsGreatestKey p key) (h' : routes.IsGreatestKey p key') : key = key' := by
  obtain ⟨⟨r, hr, hp⟩, hmax⟩ := h
  obtain ⟨⟨r', hr', hp'⟩, hmax'⟩ := h'
  exact String.le_antisymm (hmax' key r hr hp) (hmax key' r' hr' hp')

/-- The routes of a host whose TLS the router looks into. -/
def ofHost (routes : Routes) (host : String) : Routes :=
  routes.filter fun _ r => r.host = host && r.termination ≠ .passthrough

theorem mem_ofHost {routes : Routes} {host key : String} {r : Route} :
    (key, r) ∈ (routes.ofHost host).entries ↔
      (key, r) ∈ routes.entries ∧ r.termination ≠ .passthrough ∧ r.host = host := by
  simp [ofHost, Table.filter, and_comm]

/-! ## Groups -/

section

variable {es : List (String × Route)} {host : String}

/-- The groups of some routes. -/
def groupsOf (es : List (String × Route)) : Groups :=
  es.foldl (fun groups e => Groups.addRoute groups e.1 e.2) .empty

theorem groupsOf_concat (es : List (String × Route)) (e : String × Route) :
    groupsOf (es ++ [e]) = Groups.addRoute (groupsOf es) e.1 e.2 := by
  rw [groupsOf, List.foldl_append, List.foldl_cons, List.foldl_nil, groupsOf]

theorem entries_findD_groupsOf (h : (es.map Prod.fst).Nodup) :
    ((groupsOf es).findD host .empty).entries = es.filter fun e => e.2.host = host := by
  induction es using List.reverseRecOn generalizing host with
  | nil => rfl
  | append_singleton es e ih =>
    rw [List.map_append, List.map_singleton, List.nodup_append] at h
    obtain ⟨hes, -, hother⟩ := h
    rw [groupsOf_concat, Groups.addRoute, Table.findD_insert, List.filter_append]
    by_cases hhost : e.2.host = host
    · have hnew : e.1 ∉ ((groupsOf es).findD e.2.host .empty).keys := by
        rw [Table.keys, ih hes]
        intro hmem
        exact hother _ ((List.filter_sublist.map Prod.fst).subset hmem) _ (.head _) rfl
      rw [if_pos hhost.symm, Table.entries_insert_of_notMem hnew, ih hes, hhost,
        List.filter_cons_of_pos (by simpa using hhost), List.filter_nil]
    · rw [if_neg (Ne.symm hhost), ih hes, List.filter_cons_of_neg (by simpa using hhost),
        List.filter_nil, List.append_nil]

theorem contains_groupsOf (es : List (String × Route)) (host : String) :
    (groupsOf es).contains host = es.any fun e => e.2.host = host := by
  induction es using List.reverseRecOn with
  | nil => rfl
  | append_singleton es e ih =>
    rw [groupsOf_concat, Groups.addRoute, Table.contains_eq_isSome, Table.find?_insert,
      List.any_append, List.any_cons, List.any_nil, Bool.or_false, ← ih, Table.contains_eq_isSome]
    by_cases hhost : host = e.2.host
    · simp [hhost]
    · simp [hhost, Ne.symm hhost]

end

section

variable (routes : Routes) (host : String)

theorem groupedByHost_eq_groupsOf : routes.groupedByHost =
    groupsOf (routes.entries.filter fun e => e.2.termination ≠ .passthrough) := rfl

theorem findD_groupedByHost : routes.groupedByHost.findD host .empty = routes.ofHost host := by
  have hnodup := routes.nodup.sublist
    ((List.filter_sublist (p := fun e => decide (e.2.termination ≠ .passthrough))).map Prod.fst)
  refine Table.ext_entries ?_
  rw [groupedByHost_eq_groupsOf, entries_findD_groupsOf hnodup, List.filter_filter]
  rfl

theorem contains_groupedByHost_iff : routes.groupedByHost.contains host = true ↔
    ∃ e ∈ routes.entries, e.2.termination ≠ .passthrough ∧ e.2.host = host := by
  rw [groupedByHost_eq_groupsOf, contains_groupsOf, List.any_filter]
  simp

/-- The group of a host is the table of its routes, and there is none without routes. -/
theorem find?_groupedByHost_eq_some_iff {group : Routes} :
    routes.groupedByHost.find? host = some group ↔
      group = routes.ofHost host ∧ group.entries ≠ [] := by
  have hgroup := findD_groupedByHost routes host
  have hsome : (routes.groupedByHost.find? host).isSome = true ↔
      (routes.ofHost host).entries ≠ [] := by
    rw [← Table.contains_eq_isSome, contains_groupedByHost_iff, Ne, List.eq_nil_iff_forall_not_mem]
    simp only [Prod.exists, Prod.forall, mem_ofHost, not_forall, not_not]
  rw [Table.findD] at hgroup
  constructor
  · intro h
    rw [h] at hgroup hsome
    obtain rfl : group = routes.ofHost host := hgroup
    exact ⟨rfl, hsome.1 rfl⟩
  · rintro ⟨rfl, hne⟩
    obtain ⟨group, h⟩ := Option.isSome_iff_exists.1 (hsome.2 hne)
    rw [h] at hgroup ⊢
    exact congrArg some hgroup

end

/-! ## The primary route of a group -/

section

variable {routes : Routes} {p : Route → Prop} {key : String}

theorem endsTls_iff {r : Route} (h : (key, r) ∈ routes.entries) :
    routes.endsTls key = true ↔ EndsTls r := by
  rw [endsTls, Table.find?_eq_some_iff.2 h, Option.map_some, Option.getD_some, EndsTls]
  cases r.termination <;> decide

/-- The first key of a descending list that passes a test is the greatest one that does. -/
theorem isGreatestKey_of_find? {test : String → Bool}
    (htest : ∀ k r, (k, r) ∈ routes.entries → (test k = true ↔ p r))
    (h : routes.keysDescending.find? test = some key) : routes.IsGreatestKey p key := by
  have hperm : routes.keysDescending.Perm routes.keys := MapFile.descending_perm _
  have hsorted : routes.keysDescending.Pairwise fun a b => b ≤ a :=
    MapFile.pairwise_descending _
  obtain ⟨hkey, front, back, hsplit, hfront⟩ := List.find?_eq_some_iff_append.1 h
  obtain ⟨e, he, rfl⟩ := List.mem_map.1 (hperm.subset (List.mem_of_find?_eq_some h))
  refine ⟨⟨e.2, he, (htest _ _ he).1 hkey⟩, fun k r hr hp => ?_⟩
  have hk : k ∈ routes.keysDescending := hperm.mem_iff.2 (List.mem_map.2 ⟨_, hr, rfl⟩)
  rw [hsplit] at hk hsorted
  rcases List.mem_append.1 hk with hk | hk
  · have hfails := hfront k hk
    rw [(htest _ _ hr).2 hp] at hfails
    cases hfails
  · rcases List.mem_cons.1 hk with rfl | hk
    · exact String.le_refl _
    · exact (List.pairwise_cons.1 (List.pairwise_append.1 hsorted).2.1).1 k hk

theorem isGreatestKey_primaryKey_of_endsTls (h : ∃ e ∈ routes.entries, EndsTls e.2) :
    routes.IsGreatestKey EndsTls routes.primaryKey := by
  have hfind : (routes.keysDescending.find? routes.endsTls).isSome = true := by
    obtain ⟨e, he, hends⟩ := h
    rw [List.find?_isSome]
    exact ⟨e.1, (MapFile.descending_perm _).mem_iff.2 (List.mem_map_of_mem he),
      (endsTls_iff he).2 hends⟩
  obtain ⟨key, hkey⟩ := Option.isSome_iff_exists.1 hfind
  rw [primaryKey, hkey]
  exact isGreatestKey_of_find? (fun _ _ => endsTls_iff) hkey

theorem isGreatestKey_primaryKey_of_not_endsTls (h : ∀ e ∈ routes.entries, ¬ EndsTls e.2)
    (hne : routes.entries ≠ []) : routes.IsGreatestKey (fun _ => True) routes.primaryKey := by
  have hnone : routes.keysDescending.find? routes.endsTls = none := by
    refine List.find?_eq_none.2 fun k hk hends => ?_
    obtain ⟨e, he, rfl⟩ := List.mem_map.1 ((MapFile.descending_perm _).subset hk)
    exact h e he ((endsTls_iff he).1 hends)
  have hkeys : routes.keysDescending ≠ [] := by
    intro hnil
    have hperm : routes.keysDescending.Perm routes.keys := MapFile.descending_perm _
    rw [hnil, List.nil_perm] at hperm
    exact hne (List.map_eq_nil_iff.1 hperm)
  obtain ⟨key, keys, hcons⟩ := List.exists_cons_of_ne_nil hkeys
  have hfirst : routes.keysDescending.find? (fun _ => true) = some key := by
    rw [hcons]
    rfl
  rw [primaryKey, hnone, hcons]
  exact isGreatestKey_of_find? (fun _ _ _ => by simp) hfirst

theorem primaryKey_eq_of_perm {routes' : Routes} (h : routes'.entries.Perm routes.entries) :
    routes'.primaryKey = routes.primaryKey := by
  have hkeys : routes'.keysDescending = routes.keysDescending :=
    MapFile.descending_eq_of_perm (h.map Prod.fst)
  have hends : routes'.endsTls = routes.endsTls := funext fun k => by
    rw [endsTls, Table.find?_eq_of_perm h, endsTls]
  rw [primaryKey, hkeys, hends, primaryKey]

end

/-- **Groups and their primary routes.** A host has a group exactly if it has a
route whose TLS the router looks into. Every such route is in one group, that of
its host, under its own key and as it is, and no other route is in any. The
primary key of a table that is not empty is the greatest one of the routes that
end TLS at the router, or of all routes if none does. The order of the routes is
no matter for any of this. -/
theorem grouped_with_greatest_primary (routes : Routes) :
    (∀ host, routes.groupedByHost.contains host = true ↔
      ∃ e ∈ routes.entries, e.2.termination ≠ .passthrough ∧ e.2.host = host) ∧
    (∀ host group, routes.groupedByHost.find? host = some group → ∀ key r,
      (key, r) ∈ group.entries ↔
        (key, r) ∈ routes.entries ∧ r.termination ≠ .passthrough ∧ r.host = host) ∧
    (∀ key r, (key, r) ∈ routes.entries → r.termination ≠ .passthrough →
      ∃! host, ∃ group, routes.groupedByHost.find? host = some group ∧
        group.find? key = some r) ∧
    (∀ group : Routes, group.entries ≠ [] →
      ((∃ e ∈ group.entries, EndsTls e.2) → group.IsGreatestKey EndsTls group.primaryKey) ∧
      ((∀ e ∈ group.entries, ¬ EndsTls e.2) →
        group.IsGreatestKey (fun _ => True) group.primaryKey)) ∧
    ∀ routes' : Routes, routes'.entries.Perm routes.entries →
      routes'.primaryKey = routes.primaryKey ∧ ∀ host,
        (routes'.groupedByHost.findD host .empty).entries.Perm
          (routes.groupedByHost.findD host .empty).entries ∧
        (routes'.groupedByHost.findD host .empty).primaryKey =
          (routes.groupedByHost.findD host .empty).primaryKey := by
  refine ⟨contains_groupedByHost_iff routes, fun host group h key r => ?_,
    fun key r hr hpass => ⟨r.host, ⟨routes.ofHost r.host, ?_⟩, ?_⟩, fun group hne => ⟨?_, ?_⟩,
    fun routes' hperm => ⟨primaryKey_eq_of_perm hperm, fun host => ?_⟩⟩
  · rw [((find?_groupedByHost_eq_some_iff routes host).1 h).1, mem_ofHost]
  · have hmem : (key, r) ∈ (routes.ofHost r.host).entries := mem_ofHost.2 ⟨hr, hpass, rfl⟩
    exact ⟨(find?_groupedByHost_eq_some_iff routes r.host).2 ⟨rfl, List.ne_nil_of_mem hmem⟩,
      Table.find?_eq_some_iff.2 hmem⟩
  · rintro host ⟨group, hgroup, hfind⟩
    obtain ⟨rfl, -⟩ := (find?_groupedByHost_eq_some_iff routes host).1 hgroup
    exact (mem_ofHost.1 (Table.find?_eq_some_iff.1 hfind)).2.2.symm
  · exact isGreatestKey_primaryKey_of_endsTls
  · exact fun h => isGreatestKey_primaryKey_of_not_endsTls h hne
  · have hgroups : (routes'.ofHost host).entries.Perm (routes.ofHost host).entries :=
      hperm.filter _
    rw [findD_groupedByHost, findD_groupedByHost]
    exact ⟨hgroups, primaryKey_eq_of_perm hgroups⟩

theorem grouped_with_greatest_primary_mixed :
    let plain : Route := { host := "h" }
    let edge : Route := { host := "h", termination := .edge }
    let passing : Route := { host := "h", termination := .passthrough }
    let routes : Routes :=
      ⟨[("n:d", plain), ("n:b", edge), ("n:z", passing), ("n:a", edge)], by decide⟩
    let swapped : Routes :=
      ⟨[("n:b", edge), ("n:d", plain), ("n:z", passing), ("n:a", edge)], by decide⟩
    ∃ group, routes.groupedByHost.find? "h" = some group ∧ ("n:z", passing) ∉ group.entries ∧
      group.IsGreatestKey EndsTls group.primaryKey ∧ group.primaryKey = "n:b" ∧
      (swapped.groupedByHost.findD "h" .empty).primaryKey = "n:b" := by
  intro plain edge passing routes swapped
  obtain ⟨-, hmem, -, hprimary, horder⟩ := grouped_with_greatest_primary routes
  obtain ⟨group, hgroup⟩ : ∃ group, routes.groupedByHost.find? "h" = some group := ⟨_, rfl⟩
  have hedge : ("n:b", edge) ∈ group.entries :=
    (hmem _ _ hgroup _ _).2 ⟨.tail _ (.head _), by decide, rfl⟩
  have hgreatest := (hprimary group (List.ne_nil_of_mem hedge)).1 ⟨_, hedge, .inl rfl⟩
  have hfindD : routes.groupedByHost.findD "h" .empty = group := by rw [Table.findD, hgroup]; rfl
  have hkey : group.primaryKey = "n:b" := by
    have hall : ∀ e ∈ routes.entries, EndsTls e.2 → e.1 ≤ "n:b" := by decide
    exact hgreatest.unique ⟨⟨edge, hedge, .inl rfl⟩, fun k r hr hends =>
      hall (k, r) ((hmem _ _ hgroup _ _).1 hr).1 hends⟩
  refine ⟨group, hgroup, fun h => ((hmem _ _ hgroup _ _).1 h).2.1 rfl, hgreatest, hkey, ?_⟩
  rw [((horder swapped (.swap _ _ _)).2 "h").2, hfindD, hkey]

end ProxyMaps.Routes
