/-
Runs of a session on a tree of files. A sequence of two computations stops with
the fault of the first, and else goes on with the second from where the first
has ended (`run_bind_eq`).
-/
import ProxyMaps.Command.Session

namespace ProxyMaps.Command

section

variable {α β : Type} {x : Session (StateM FileTree) α} {f : α → Session (StateM FileTree) β}
  {said said' : List Notice} {t t' : FileTree}

theorem run_bind_eq : (x >>= f).run.run said t =
    match x.run.run said t with
    | ((.ok a, said'), t') => (f a).run.run said' t'
    | ((.error fault, said'), t') => ((.error fault, said'), t') := by
  rcases hx : x.run.run said t with ⟨⟨fault | a, said'⟩, t'⟩ <;>
  · change x said t = _ at hx
    show (x >>= f) said t = _
    simp only [bind, ExceptT.bind, ExceptT.mk, StateT.bind, hx]
    rfl

theorem run_bind {a : α} (h : x.run.run said t = ((.ok a, said'), t')) :
    (x >>= f).run.run said t = (f a).run.run said' t' := by
  rw [run_bind_eq, h]

/-- A sequence that ends well has gone through both of its computations. -/
theorem exists_of_run_bind {b : β} (h : (x >>= f).run.run said t = ((.ok b, said'), t')) :
    ∃ a said₁ t₁, x.run.run said t = ((.ok a, said₁), t₁) ∧
      (f a).run.run said₁ t₁ = ((.ok b, said'), t') := by
  rw [run_bind_eq] at h
  rcases hx : x.run.run said t with ⟨⟨fault | a, said₁⟩, t₁⟩ <;> rw [hx] at h
  · cases h
  · exact ⟨a, said₁, t₁, rfl, h⟩

theorem run_lift {op : StateM FileTree α} {a : α} (h : op t = (a, t')) :
    (liftM op : Session (StateM FileTree) α).run.run said t = ((.ok a, said), t') := by
  have hlift : (liftM op : Session (StateM FileTree) α).run.run said t =
    ((.ok (op t).1, said), (op t).2) := rfl
  rw [hlift, h]

/-- An operation of the computer stops nothing, and nothing is said about it. -/
theorem of_run_lift {op : StateM FileTree α} {a : α}
    (h : (liftM op : Session (StateM FileTree) α).run.run said t = ((.ok a, said'), t')) :
    op t = (a, t') ∧ said' = said := by
  have hlift : (liftM op : Session (StateM FileTree) α).run.run said t =
    ((.ok (op t).1, said), (op t).2) := rfl
  cases hlift.symm.trans h
  exact ⟨rfl, rfl⟩

theorem run_orStop (fault : Fault) :
    (Session.orStop fault true : Session (StateM FileTree) Unit).run.run said t =
      ((.ok (), said), t) := rfl

/-- What goes on only if something was possible goes on when it was, and changes nothing. -/
theorem of_run_orStop {fault : Fault} {done : Bool} {u : Unit}
    (h : (Session.orStop fault done : Session (StateM FileTree) Unit).run.run said t =
      ((.ok u, said'), t')) : done = true ∧ said' = said ∧ t' = t := by
  cases done with
  | false =>
    have hstop : (Session.orStop fault false : Session (StateM FileTree) Unit).run.run said t =
      ((.error fault, said), t) := rfl
    cases hstop.symm.trans h
  | true =>
    cases (run_orStop fault).symm.trans h
    exact ⟨rfl, rfl, rfl⟩

end

end ProxyMaps.Command
