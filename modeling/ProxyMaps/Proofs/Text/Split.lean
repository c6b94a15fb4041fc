/-
Texts that are cut at a character. The first separator is the one with none in
front of it (`cutFirst?_eq_some_iff`), and the last one is the first one from
behind (`eq_append_of_cutLast?`).
-/
import ProxyMaps.Text.Split

namespace ProxyMaps.Text

/-- A text is cut at its first separator. -/
theorem cutFirst?_eq_some_iff {sep : Char} {s a b : List Char} :
    cutFirst? sep s = some (a, b) ↔ s = a ++ sep :: b ∧ sep ∉ a := by
  induction s generalizing a b with
  | nil => simp [cutFirst?]
  | cons c s ih =>
    simp only [cutFirst?]
    by_cases hc : c = sep
    · subst hc
      rw [if_pos rfl]
      constructor
      · rintro ⟨⟩
        exact ⟨rfl, List.not_mem_nil⟩
      · intro h
        obtain ⟨h, ha⟩ := h
        cases a with
        | nil => simp_all
        | cons d a =>
          simp only [List.cons_append, List.cons.injEq] at h
          exact absurd (h.1 ▸ List.mem_cons_self) ha
    · rw [if_neg hc]
      simp only [Option.map_eq_some_iff, Prod.mk.injEq]
      constructor
      · intro h
        obtain ⟨⟨a', b'⟩, h, rfl, rfl⟩ := h
        obtain ⟨rfl, ha⟩ := ih.1 h
        exact ⟨rfl, by simp [ha, Ne.symm hc]⟩
      · intro h
        obtain ⟨h, ha⟩ := h
        cases a with
        | nil =>
          simp only [List.nil_append, List.cons.injEq] at h
          exact absurd h.1 hc
        | cons d a =>
          simp only [List.cons_append, List.cons.injEq] at h
          obtain ⟨rfl, rfl⟩ := h
          exact ⟨(a, b), ih.2 ⟨rfl, fun h => ha (List.mem_cons_of_mem _ h)⟩, rfl, rfl⟩

theorem cutFirst?_eq_none_iff {sep : Char} {s : List Char} : cutFirst? sep s = none ↔ sep ∉ s := by
  induction s with
  | nil => simp [cutFirst?]
  | cons c s ih =>
    by_cases hc : c = sep
    · simp [cutFirst?, hc]
    · simp [cutFirst?, hc, Ne.symm hc, ih]

theorem cutLast?_eq_none_iff {sep : Char} {s : List Char} : cutLast? sep s = none ↔ sep ∉ s := by
  rw [cutLast?, Option.map_eq_none_iff, cutFirst?_eq_none_iff, List.mem_reverse]

theorem eq_append_of_cutLast? {sep : Char} {s front name : List Char}
    (h : cutLast? sep s = some (front, name)) : s = front ++ sep :: name ∧ sep ∉ name := by
  obtain ⟨⟨name', front'⟩, hfirst, hp⟩ := Option.map_eq_some_iff.1 h
  simp only [Prod.mk.injEq] at hp
  obtain ⟨rfl, rfl⟩ := hp
  obtain ⟨hsplit, hname⟩ := cutFirst?_eq_some_iff.1 hfirst
  have hs : s = (name' ++ sep :: front').reverse := by rw [← hsplit, List.reverse_reverse]
  exact ⟨by simpa using hs, by simpa using hname⟩

end ProxyMaps.Text
