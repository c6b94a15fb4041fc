/-
Finite maps that remember the order in which their keys first came.

`insert` gives a known key its new value where it stands and puts a new key
last (`keys_insert`), so a table is also the answer to "which keys, in which
order". The keys never repeat: that is part of the type.
-/

namespace ProxyMaps

/-- A finite map from `κ` to `α`, listed in the order of first insertion. -/
structure Table (κ : Type) (α : Type) where
  /-- The entries, first inserted first. -/
  entries : List (κ × α)
  /-- No key occurs twice. -/
  nodup : (entries.map Prod.fst).Nodup

namespace Table

variable {κ α β : Type}

theorem ext_entries : ∀ {s t : Table κ α}, s.entries = t.entries → s = t
  | ⟨_, _⟩, ⟨_, _⟩, rfl => rfl

instance [DecidableEq κ] [DecidableEq α] : DecidableEq (Table κ α) := fun s t =>
  if h : s.entries = t.entries then isTrue (ext_entries h)
  else isFalse fun e => h (e ▸ rfl)

/-- The table without entries. -/
def empty : Table κ α := ⟨[], by simp⟩

instance : EmptyCollection (Table κ α) := ⟨empty⟩

instance : Inhabited (Table κ α) := ⟨empty⟩

/-- The keys, first inserted first. -/
def keys (t : Table κ α) : List κ := t.entries.map Prod.fst

/-- The values, in the order of their keys. -/
def values (t : Table κ α) : List α := t.entries.map Prod.snd

/-- The number of entries. -/
def size (t : Table κ α) : Nat := t.entries.length

theorem nodup_keys (t : Table κ α) : t.keys.Nodup := t.nodup

@[simp] theorem keys_empty : (empty : Table κ α).keys = [] := rfl

@[simp] theorem length_keys (t : Table κ α) : t.keys.length = t.size := by simp [keys, size]

/-- The same keys with each value transformed. -/
def mapValues (f : κ → α → β) (t : Table κ α) : Table κ β where
  entries := t.entries.map fun e => (e.1, f e.1 e.2)
  nodup := by simpa [List.map_map, Function.comp_def] using t.nodup

/-- The entries that pass a test, in their order. -/
def filter (p : κ → α → Bool) (t : Table κ α) : Table κ α where
  entries := t.entries.filter fun e => p e.1 e.2
  nodup := t.nodup.sublist (List.filter_sublist.map Prod.fst)

variable [DecidableEq κ]

/-- The value of a key, if the key is there. -/
def find? (t : Table κ α) (k : κ) : Option α :=
  (t.entries.find? fun e => e.1 = k).map Prod.snd

/-- The value of a key, or a default. -/
def findD (t : Table κ α) (k : κ) (d : α) : α := (t.find? k).getD d

/-- Whether the key is there. -/
def contains (t : Table κ α) (k : κ) : Bool := t.keys.contains k

/-- A list of entries with `k` set to `v`: in place if `k` occurs, else at the end. -/
def put (k : κ) (v : α) : List (κ × α) → List (κ × α)
  | [] => [(k, v)]
  | e :: rest => if e.1 = k then (k, v) :: rest else e :: put k v rest

theorem map_fst_put (k : κ) (v : α) (es : List (κ × α)) :
    (put k v es).map Prod.fst =
      if k ∈ es.map Prod.fst then es.map Prod.fst else es.map Prod.fst ++ [k] := by
  induction es with
  | nil => simp [put]
  | cons e rest ih =>
    by_cases h : e.1 = k
    · simp [put, h]
    · have h' : ¬ k = e.1 := fun e' => h e'.symm
      by_cases hm : k ∈ rest.map Prod.fst
      · simp only [put, h, if_false, List.map_cons, ih, hm, if_true, List.mem_cons, or_true]
      · simp only [put, h, if_false, List.map_cons, ih, hm, List.mem_cons, h', or_self,
          List.cons_append]

/-- Sets the value of a key: in place if the key is known, else as the last entry. -/
def insert (t : Table κ α) (k : κ) (v : α) : Table κ α where
  entries := put k v t.entries
  nodup := by
    rw [map_fst_put]
    split
    · exact t.nodup
    · rename_i h
      exact List.nodup_append.2 ⟨t.nodup, by simp, fun a ha b hb e => by
        simp only [List.mem_singleton] at hb
        exact h (hb ▸ e ▸ ha)⟩

theorem keys_insert (t : Table κ α) (k : κ) (v : α) :
    (t.insert k v).keys = if k ∈ t.keys then t.keys else t.keys ++ [k] :=
  map_fst_put k v t.entries

/-- The table of a list of entries; of several values for one key the last stands. -/
def ofList (es : List (κ × α)) : Table κ α :=
  es.foldl (fun t e => t.insert e.1 e.2) empty

theorem find?_insert (t : Table κ α) (k k' : κ) (v : α) :
    (t.insert k v).find? k' = if k' = k then some v else t.find? k' := by
  suffices h : ∀ es : List (κ × α), ((put k v es).find? fun e => decide (e.1 = k')).map Prod.snd =
      if k' = k then some v else (es.find? fun e => decide (e.1 = k')).map Prod.snd from h t.entries
  intro es
  by_cases hk : k' = k
  · subst hk
    induction es with
    | nil => simp [put]
    | cons e rest ih => by_cases he : e.1 = k' <;> simp_all [put]
  · have hk' : ¬ k = k' := fun e => hk e.symm
    induction es with
    | nil => simp [put, hk, hk']
    | cons e rest ih =>
      by_cases he : e.1 = k
      · have : ¬ e.1 = k' := fun e' => hk' (he.symm.trans e')
        simp [put, he, hk, hk']
      · by_cases h : e.1 = k'
        · rw [put, if_neg he]
          simp [h, hk]
        · rw [put, if_neg he]
          simp_all

theorem contains_iff_mem_keys (t : Table κ α) (k : κ) : t.contains k = true ↔ k ∈ t.keys := by
  simp [contains]

end Table

end ProxyMaps
