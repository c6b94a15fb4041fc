/-
Histories of requests to a system with a state. What is to be said of a whole
history is said of its steps: each request with the state that it meets. What
no single request breaks holds from any step to the end (`rel_foldl`).
-/

namespace ProxyMaps.History

variable {σ ρ : Type} {perform : σ → ρ → σ}

/-- The requests of a history, each with the state that it meets. -/
def steps (perform : σ → ρ → σ) (s : σ) : List ρ → List (σ × ρ)
  | [] => []
  | r :: rs => (s, r) :: steps perform (perform s r) rs

theorem steps_concat (s : σ) (rs : List ρ) (r : ρ) :
    steps perform s (rs ++ [r]) = steps perform s rs ++ [(rs.foldl perform s, r)] := by
  induction rs generalizing s with
  | nil => rfl
  | cons q rs ih => rw [List.cons_append, steps, ih, steps, List.foldl_cons, List.cons_append]

/-- What relates the states around each request relates the state of each step to the last one. -/
theorem rel_foldl {R : σ → σ → Prop} (hrefl : ∀ s, R s s)
    (htrans : ∀ {s t u}, R s t → R t u → R s u) (hstep : ∀ s r, R s (perform s r)) {s : σ}
    {rs : List ρ} {x : σ × ρ} (hx : x ∈ steps perform s rs) :
    R x.1 (rs.foldl perform s) ∧ R (perform x.1 x.2) (rs.foldl perform s) := by
  have hrun : ∀ (s : σ) (rs : List ρ), R s (rs.foldl perform s) := fun s rs =>
    List.foldlRecOn rs perform (hrefl s) fun t ht r _ => htrans ht (hstep t r)
  induction rs generalizing s with
  | nil => cases hx
  | cons r rs ih =>
    rcases List.mem_cons.1 hx with rfl | hx
    · exact ⟨hrun s (r :: rs), hrun _ rs⟩
    · exact ih hx

end ProxyMaps.History
