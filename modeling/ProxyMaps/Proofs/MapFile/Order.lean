/-
The order of the lines of map files.

The lines of a map are its entries' lines, permuted (`descending_perm`,
`sortLines_perm`), and any two of them stand as the order says
(`pairwise_descending`, `pairwise_sortLines`). A list in such an order does not
depend on the order its lines came in, and the greater of two of its lines
stands before the other (`Precedes.of_pairwise`).
-/
import ProxyMaps.MapFile

namespace ProxyMaps.MapFile

/-! ## Descending order -/

theorem descending_perm (ls : List String) : (descending ls).Perm ls := List.mergeSort_perm _ _

theorem pairwise_descending (ls : List String) : (descending ls).Pairwise fun a b => b ≤ a := by
  have htrans : ∀ a b c : String, decide (b ≤ a) = true → decide (c ≤ b) = true →
      decide (c ≤ a) = true := by
    simp only [decide_eq_true_eq]
    exact fun _ _ _ hab hbc => String.le_trans hbc hab
  have htotal : ∀ a b : String, (decide (b ≤ a) || decide (a ≤ b)) = true := by
    simp only [Bool.or_eq_true, decide_eq_true_eq]
    exact fun a b => String.le_total b a
  simpa [descending] using List.pairwise_mergeSort htrans htotal ls

theorem descending_eq_of_perm {ls ls' : List String} (h : ls.Perm ls') :
    descending ls = descending ls' := by
  have hperm := (descending_perm ls).trans (h.trans (descending_perm ls').symm)
  exact hperm.eq_of_pairwise (fun _ _ _ _ hab hba => String.le_antisymm hba hab)
    (pairwise_descending ls) (pairwise_descending ls')

/-! ## Lines of wildcard hosts last -/

/-- One line may stand before another: it alone does not begin with `start`, or it is no less. -/
def MayPrecede (start a b : String) : Prop :=
  startsWith start a = false ∧ startsWith start b = true ∨
    startsWith start a = startsWith start b ∧ b ≤ a

theorem sortLines_perm (ls : List String) (start : String) : (sortLines ls start).Perm ls :=
  List.perm_append_comm.trans ((List.filter_append_perm _ _).trans (descending_perm ls))

theorem pairwise_sortLines (ls : List String) (start : String) :
    (sortLines ls start).Pairwise (MayPrecede start) := by
  have hblock : ∀ b : Bool, ((descending ls).filter fun l => startsWith start l = b).Pairwise
      (MayPrecede start) := by
    intro b
    refine ((pairwise_descending ls).filter _).imp_of_mem fun ha hb hle => .inr ⟨?_, hle⟩
    simp only [List.mem_filter, decide_eq_true_eq] at ha hb
    exact ha.2.trans hb.2.symm
  refine List.pairwise_append.2 ⟨?_, ?_, ?_⟩
  · simpa using hblock false
  · simpa using hblock true
  · intro a ha b hb
    simp only [List.mem_filter, Bool.not_eq_true'] at ha hb
    exact .inl ⟨ha.2, hb.2⟩

/-! ## Which line comes first -/

/-- Both lines are in a list, every occurrence of the first before every one of the second. -/
def Precedes (x y : String) (ls : List String) : Prop :=
  x ∈ ls ∧ y ∈ ls ∧ ∀ i j : Nat, ls[i]? = some x → ls[j]? = some y → i < j

theorem Precedes.not_symm {x y : String} {ls : List String} (h : Precedes x y ls) :
    ¬ Precedes y x ls := by
  obtain ⟨i, hi⟩ := List.mem_iff_getElem?.1 h.1
  obtain ⟨j, hj⟩ := List.mem_iff_getElem?.1 h.2.1
  intro h'
  have := h.2.2 i j hi hj
  have := h'.2.2 j i hj hi
  omega

theorem Precedes.of_pairwise {R : String → String → Prop} {ls : List String} {x y : String}
    (h : ls.Pairwise R) (hx : x ∈ ls) (hy : y ∈ ls) (hne : x ≠ y) (hyx : ¬ R y x) :
    Precedes x y ls := by
  refine ⟨hx, hy, fun i j hi hj => ?_⟩
  obtain ⟨hi', rfl⟩ := List.getElem?_eq_some_iff.1 hi
  obtain ⟨hj', rfl⟩ := List.getElem?_eq_some_iff.1 hj
  rcases Nat.lt_trichotomy i j with hlt | rfl | hgt
  · exact hlt
  · exact absurd rfl hne
  · exact absurd (List.pairwise_iff_getElem.1 h j i hj' hi' hgt) hyx

/-- Of two lines of which both or none begin with `start`, the greater one comes first. -/
theorem precedes_sortLines {ls : List String} {start x y : String} (hx : x ∈ ls) (hy : y ∈ ls)
    (hstart : startsWith start x = startsWith start y) (hlt : y < x) :
    Precedes x y (sortLines ls start) := by
  refine .of_pairwise (pairwise_sortLines ls start) ((sortLines_perm ls start).mem_iff.2 hx)
    ((sortLines_perm ls start).mem_iff.2 hy) (fun h => ?_) ?_
  · exact String.not_le.2 hlt (h ▸ String.le_refl _)
  · intro h
    rcases h with ⟨h, h'⟩ | ⟨-, h⟩
    · rw [hstart, h] at h'
      cases h'
    · exact String.not_le.2 hlt h

end ProxyMaps.MapFile
