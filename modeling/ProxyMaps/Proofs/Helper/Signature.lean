/-
Signatures of helpers. A signature is refused for its first parameter that
nothing fills, and otherwise the arity counts its parameters by how arguments
reach them (`ofSignature_eq`).
-/
import ProxyMaps.Helper.Signature

namespace ProxyMaps.Helper

namespace Parameter

/-- Whether one argument by position reaches a parameter. -/
def isPositional (p : Parameter) : Bool := p.kind = .positionalOnly || p.kind = .positional

/-- Whether an argument by position has to reach a parameter. -/
def isRequired (p : Parameter) : Bool := p.isPositional && !p.hasDefault

/-- Whether all arguments by position that are left reach a parameter. -/
def takesRest (p : Parameter) : Bool := p.kind = .varPositional

/-- Whether no argument by position reaches a parameter, which has no default either. -/
def isUnfilled (p : Parameter) : Bool := !p.isPositional && !p.takesRest && !p.hasDefault

end Parameter

/-- The functions of a signature take a number of arguments by position. -/
structure Signature.Takes (s : Signature) (n : Int) : Prop where
  least : s.countP Parameter.isRequired ≤ n
  most : s.any Parameter.takesRest = true ∨ n ≤ s.countP Parameter.isPositional

namespace Arity

variable {a : Arity} {p : Parameter}

theorem add_of_isUnfilled (h : p.isUnfilled = true) : a.add p = .error p := by
  obtain ⟨name, kind, hasDefault⟩ := p
  cases kind with
  | keywordOnly | varKeyword => cases hasDefault <;> first | rfl | cases h
  | positionalOnly | positional | varPositional => cases h

theorem add_of_not_isUnfilled (h : p.isUnfilled = false) : a.add p =
    .ok ⟨a.least + if p.isRequired then 1 else 0,
      if p.takesRest then none else a.most.map (· + if p.isPositional then 1 else 0)⟩ := by
  obtain ⟨name, kind, hasDefault⟩ := p
  obtain ⟨least, most⟩ := a
  cases kind with
  | positionalOnly | positional => cases hasDefault <;> cases most <;> rfl
  | varPositional => cases hasDefault <;> rfl
  | keywordOnly | varKeyword =>
    cases hasDefault with
    | true => cases most <;> rfl
    | false => cases h

theorem addAll_eq (a : Arity) (s : Signature) : a.addAll s =
    match s.find? Parameter.isUnfilled with
    | some p => .error p
    | none => .ok ⟨a.least + s.countP Parameter.isRequired,
        if s.any Parameter.takesRest then none
        else a.most.map (· + s.countP Parameter.isPositional)⟩ := by
  induction s generalizing a with
  | nil => simp [addAll]
  | cons p s ih =>
    by_cases hp : p.isUnfilled = true
    · rw [addAll, add_of_isUnfilled hp, List.find?_cons_of_pos hp]
    · rw [addAll, add_of_not_isUnfilled (Bool.eq_false_iff.2 hp), List.find?_cons_of_neg hp]
      dsimp only
      rw [ih]
      cases s.find? Parameter.isUnfilled with
      | some q => rfl
      | none =>
        have hsum : ∀ k m n : Nat, k + m + n = k + (n + m) := by omega
        simp only [List.countP_cons, List.any_cons, hsum]
        cases p.takesRest <;> cases s.any Parameter.takesRest <;> simp [Function.comp_def, hsum]

theorem ofSignature_eq (s : Signature) : ofSignature s =
    match s.find? Parameter.isUnfilled with
    | some p => .error p
    | none => .ok ⟨s.countP Parameter.isRequired,
        if s.any Parameter.takesRest then none else some (s.countP Parameter.isPositional)⟩ := by
  rw [ofSignature, addAll_eq]
  simp only [Nat.zero_add, Option.map_some]

variable {s : Signature}

theorem ofSignature_eq_error_iff :
    ofSignature s = .error p ↔ s.find? Parameter.isUnfilled = some p := by
  rw [ofSignature_eq]
  cases s.find? Parameter.isUnfilled <;> simp

/-- A helper takes the numbers of arguments that its signature allows. -/
theorem accepts_iff_of_ofSignature (h : ofSignature s = .ok a) (n : Int) :
    a.accepts n = true ↔ s.Takes n := by
  rw [ofSignature_eq] at h
  split at h
  · cases h
  · cases h
    rw [accepts, Bool.and_eq_true, decide_eq_true_eq]
    cases hrest : s.any Parameter.takesRest with
    | true => exact ⟨fun h => ⟨h.1, .inl hrest⟩, fun h => ⟨h.least, rfl⟩⟩
    | false =>
      simp only [Bool.false_eq_true, if_false, decide_eq_true_eq]
      exact ⟨fun h => ⟨h.1, .inr h.2⟩, fun h => ⟨h.least, h.most.resolve_left (by simp [hrest])⟩⟩

end Arity
end ProxyMaps.Helper
