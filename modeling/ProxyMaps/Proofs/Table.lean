/-
What is in a table. A table is looked into by its entries
(`find?_eq_some_iff`), and a new key only adds to them
(`entries_insert_of_notMem`). The table of a list has one entry for each key of
the list (`size_ofList`), with the last value of that key
(`find?_ofList`).
-/
import Mathlib.Data.List.Dedup
import Mathlib.Data.List.Induction
import ProxyMaps.Table

namespace ProxyMaps.Table

variable {κ α : Type} [DecidableEq κ] {t : Table κ α} {k : κ} {v : α}

theorem find?_eq_some_iff : t.find? k = some v ↔ (k, v) ∈ t.entries := by
  suffices h : ∀ es : List (κ × α), (es.map Prod.fst).Nodup →
      ((es.find? fun e => decide (e.1 = k)).map Prod.snd = some v ↔ (k, v) ∈ es) from
    h t.entries t.nodup
  intro es hnodup
  induction es with
  | nil => simp
  | cons e es ih =>
    obtain ⟨hnew, hes⟩ := List.nodup_cons.1 hnodup
    by_cases he : e.1 = k
    · subst he
      rw [List.find?_cons_of_pos (by simp), List.mem_cons]
      -- the key is in none of the later entries
      have hlater : (e.1, v) ∉ es := fun h => hnew (List.mem_map.2 ⟨_, h, rfl⟩)
      simp [hlater, Prod.ext_iff, eq_comm]
    · rw [List.find?_cons_of_neg (by simpa using he), ih hes, List.mem_cons]
      have hother : ¬ (k, v) = e := fun h => he (congrArg Prod.fst h).symm
      simp [hother]

/-- The order of the entries is no matter for what a key stands for. -/
theorem find?_eq_of_perm {t' : Table κ α} (h : t'.entries.Perm t.entries) (k : κ) :
    t'.find? k = t.find? k :=
  Option.ext fun v => by rw [find?_eq_some_iff, find?_eq_some_iff, h.mem_iff]

theorem find?_eq_none_iff : t.find? k = none ↔ k ∉ t.keys := by
  rw [find?, Option.map_eq_none_iff, List.find?_eq_none, keys, List.mem_map]
  simp only [decide_eq_true_eq, not_exists, not_and]

theorem contains_eq_isSome (t : Table κ α) (k : κ) : t.contains k = (t.find? k).isSome := by
  rw [Bool.eq_iff_iff, contains_iff_mem_keys, Option.isSome_iff_ne_none, Ne, find?_eq_none_iff,
    Decidable.not_not]

theorem contains_eq_false_iff : t.contains k = false ↔ t.find? k = none := by
  rw [contains_eq_isSome, Option.isSome_eq_false_iff, Option.isNone_iff_eq_none]

theorem find?_mapValues {β : Type} (f : κ → α → β) (t : Table κ α) (k : κ) :
    (t.mapValues f).find? k = (t.find? k).map (f k) := by
  refine Option.ext fun v => ?_
  rw [find?_eq_some_iff, Option.map_eq_some_iff]
  simp only [find?_eq_some_iff, mapValues, List.mem_map, Prod.mk.injEq]
  constructor
  · rintro ⟨⟨_, a⟩, ha, rfl, rfl⟩
    exact ⟨a, ha, rfl⟩
  · rintro ⟨a, ha, rfl⟩
    exact ⟨(k, a), ha, rfl, rfl⟩

theorem findD_insert (t : Table κ α) (k k' : κ) (v d : α) :
    (t.insert k v).findD k' d = if k' = k then v else t.findD k' d := by
  unfold findD
  rw [find?_insert]
  split <;> rfl

theorem mem_keys_insert {k' : κ} : k' ∈ (t.insert k v).keys ↔ k' ∈ t.keys ∨ k' = k := by
  rw [keys_insert]
  split
  next hmem => exact ⟨.inl, fun h => h.elim id fun heq => heq ▸ hmem⟩
  · simp

/-- A key that is there is looked up the same way with any default. -/
theorem find?_eq_some_findD (h : k ∈ t.keys) (d : α) : t.find? k = some (t.findD k d) := by
  rw [← contains_iff_mem_keys, contains_eq_isSome] at h
  obtain ⟨v, hv⟩ := Option.isSome_iff_exists.1 h
  rw [findD, hv, Option.getD_some]

theorem put_of_notMem {es : List (κ × α)} (h : k ∉ es.map Prod.fst) :
    put k v es = es ++ [(k, v)] := by
  induction es with
  | nil => rfl
  | cons e es ih =>
    rw [List.map_cons, List.mem_cons, not_or] at h
    rw [put, if_neg (Ne.symm h.1), ih h.2, List.cons_append]

/-- A new key comes behind all others. -/
theorem entries_insert_of_notMem (h : k ∉ t.keys) (v : α) :
    (t.insert k v).entries = t.entries ++ [(k, v)] :=
  put_of_notMem h

/-! ## Tables of lists -/

theorem ofList_append_singleton (es : List (κ × α)) (e : κ × α) :
    ofList (es ++ [e]) = (ofList es).insert e.1 e.2 :=
  List.foldl_append

theorem mem_keys_ofList {es : List (κ × α)} : k ∈ (ofList es).keys ↔ k ∈ es.map Prod.fst := by
  induction es using List.reverseRecOn with
  | nil => exact Iff.rfl
  | append_singleton es e ih =>
    rw [ofList_append_singleton, mem_keys_insert, ih]
    simp

/-- The table of a list has as many entries as the list has different keys. -/
theorem size_ofList (es : List (κ × α)) : (ofList es).size = (es.map Prod.fst).dedup.length := by
  have hperm : (ofList es).keys.Perm (es.map Prod.fst).dedup :=
    (List.perm_ext_iff_of_nodup (nodup_keys _) (List.nodup_dedup _)).2 fun k => by
      rw [mem_keys_ofList, List.mem_dedup]
  rw [← length_keys]
  exact hperm.length_eq

/-- Of several values for a key the last stands. -/
theorem find?_ofList (es : List (κ × α)) (k : κ) :
    (ofList es).find? k = (es.reverse.find? fun e => decide (e.1 = k)).map Prod.snd := by
  induction es using List.reverseRecOn with
  | nil => rfl
  | append_singleton es e ih =>
    rw [ofList_append_singleton, find?_insert, List.reverse_append, List.reverse_singleton,
      List.singleton_append]
    by_cases hk : k = e.1
    · rw [if_pos hk, List.find?_cons_of_pos (by simp [hk])]
      rfl
    · rw [if_neg hk, List.find?_cons_of_neg (by simpa using Ne.symm hk), ih]

end ProxyMaps.Table
