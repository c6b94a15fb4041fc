/-
Facts about lists that the library does not have: elements without repetition,
the first result among the elements, ends of lists, lists that are joined or cut
at a separator, and runs of elements that pass a test.
-/
import Mathlib.Data.List.Basic
import Mathlib.Data.List.Nodup

namespace List

theorem nodup_eraseDups {α : Type} [DecidableEq α] (xs : List α) : xs.eraseDups.Nodup := by
  induction h : xs.length using Nat.strongRecOn generalizing xs with
  | _ n ih =>
    cases xs with
    | nil => simp
    | cons x xs =>
      have hlt : (xs.filter fun y => !y == x).length < n := by
        have := length_filter_le (fun y => !y == x) xs
        simp only [length_cons] at h
        omega
      rw [eraseDups_cons]
      exact nodup_cons.2 ⟨by simp, ih _ hlt _ rfl⟩

theorem filterMap_singleton {α β : Type} (f : α → Option β) (a : α) :
    [a].filterMap f = (f a).toList := by
  rw [filterMap_cons, filterMap_nil]
  cases f a <;> rfl

/-- The first result is that of the first element which has one. -/
theorem findSome?_eq_bind_find? {α β : Type} (f : α → Option β) (xs : List α) :
    xs.findSome? f = (xs.find? fun x => (f x).isSome).bind f := by
  induction xs with
  | nil => rfl
  | cons x xs ih =>
    rw [findSome?_cons, find?_cons]
    cases h : f x with
    | none => exact ih
    | some b => exact h.symm

theorem length_le_length_flatten {α : Type} {ws : List (List α)} (h : ∀ w ∈ ws, w ≠ []) :
    ws.length ≤ ws.flatten.length := by
  induction ws with
  | nil => simp
  | cons w ws ih =>
    have hw := length_pos_iff.2 (h w (by simp))
    have hws := ih fun v hv => h v (by simp [hv])
    simp only [length_cons, flatten_cons, length_append]
    omega

theorem IsSuffix.cons_cons {α : Type} {a b : α} {r s : List α} (h : r <:+ s) : r <:+ a :: b :: s :=
  h.trans ((suffix_cons _ _).trans (suffix_cons _ _))

section Intercalate

variable {α : Type} {sep c : α} {pieces : List (List α)}

theorem intercalate_singleton_cons_cons (sep : α) (p q : List α) (pieces : List (List α)) :
    [sep].intercalate (p :: q :: pieces) = p ++ sep :: [sep].intercalate (q :: pieces) := by
  rw [intercalate_cons_cons, append_assoc, singleton_append]

/-- Where the pieces begin, the whole begins. -/
theorem exists_cons_intercalate {p rest : List α} (h : p = c :: rest) (sep : α)
    (pieces : List (List α)) : ∃ rest, [sep].intercalate (p :: pieces) = c :: rest := by
  cases pieces with
  | nil => exact ⟨rest, by rw [intercalate_singleton, h]⟩
  | cons q qs => exact ⟨_, by rw [intercalate_singleton_cons_cons, h, cons_append]⟩

theorem mem_intercalate_of_mem {p : List α} (hp : p ∈ pieces) (hc : c ∈ p) :
    c ∈ [sep].intercalate pieces := by
  induction pieces with
  | nil => cases hp
  | cons q qs ih =>
    cases qs with
    | nil => simpa using mem_singleton.1 hp ▸ hc
    | cons r rs =>
      rw [intercalate_singleton_cons_cons]
      rcases mem_cons.1 hp with rfl | hp
      · simp [hc]
      · simp [ih hp]

theorem eq_or_mem_of_mem_intercalate (h : c ∈ [sep].intercalate pieces) :
    c = sep ∨ ∃ p ∈ pieces, c ∈ p := by
  induction pieces with
  | nil => simp at h
  | cons q qs ih =>
    cases qs with
    | nil => exact .inr ⟨q, mem_cons_self, by simpa using h⟩
    | cons r rs =>
      rw [intercalate_singleton_cons_cons, mem_append, mem_cons] at h
      rcases h with h | h | h
      · exact .inr ⟨q, mem_cons_self, h⟩
      · exact .inl h
      · exact (ih h).imp_right fun ⟨p, hp, hc⟩ => ⟨p, mem_cons_of_mem _ hp, hc⟩

variable [DecidableEq α] {s p : List α}

theorem mem_of_mem_splitOn (h : p ∈ splitOn sep s) (hc : c ∈ p) : c ∈ s := by
  have hs : [sep].intercalate (splitOn sep s) = s := intercalate_splitOn sep
  exact hs ▸ mem_intercalate_of_mem h hc

/-- No piece has a separator in it. -/
theorem not_mem_of_mem_splitOn (h : p ∈ splitOn sep s) : sep ∉ p := by
  induction s generalizing p with
  | nil => simp_all
  | cons c s ih =>
    rw [splitOn_cons_eq_if_modifyHead] at h
    split at h
    · rcases mem_cons.1 h with rfl | h
      · exact not_mem_nil
      · exact ih h
    · rename_i hc
      obtain ⟨piece, pieces, hs⟩ := exists_cons_of_ne_nil (splitOn_ne_nil sep s)
      rw [hs, modifyHead_cons, mem_cons] at h
      rcases h with rfl | h
      · have hpiece : sep ∉ piece := ih (hs ▸ mem_cons_self)
        have hne : sep ≠ c := fun h => hc (by simp [h])
        simp [hpiece, hne]
      · exact ih (hs ▸ mem_cons_of_mem _ h)

end Intercalate

section Run

variable {α : Type} {p : α → Bool} {s t : List α}

theorem takeWhile_append_stop (hs : ∀ c ∈ s, p c = true) (ht : ∀ c ∈ t.head?, p c = false) :
    (s ++ t).takeWhile p = s := by
  rw [takeWhile_append_of_pos hs]
  cases t with
  | nil => rw [takeWhile_nil, append_nil]
  | cons c t => rw [takeWhile_cons_of_neg (by simp [ht c rfl]), append_nil]

theorem dropWhile_append_stop (hs : ∀ c ∈ s, p c = true) (ht : ∀ c ∈ t.head?, p c = false) :
    (s ++ t).dropWhile p = t := by
  rw [dropWhile_append_of_pos hs]
  cases t with
  | nil => rfl
  | cons c t => rw [dropWhile_cons_of_neg (by simp [ht c rfl])]

end Run

end List
