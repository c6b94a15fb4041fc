/-
Which values have no text. An integer of too many digits has none, and so
neither has a value whose expression writes such an integer; every other value
has one.
-/
import Mathlib.Data.Nat.Digits.Defs
import ProxyMaps.Value.Display

namespace ProxyMaps

namespace Decimal.Integer

/-- An integer with more digits than a numeral may have. -/
def Endless (n : Int) : Prop := 10 ^ maxDigits ≤ n.natAbs

instance : DecidablePred Endless := fun n =>
  inferInstanceAs (Decidable (10 ^ maxDigits ≤ n.natAbs))

theorem maxDigits_lt_length_toString {n : Nat} :
    maxDigits < (toString n).length ↔ 10 ^ maxDigits ≤ n := by
  have hdigits : (toString n).length = (Nat.toDigits 10 n).length := String.length_ofList
  rw [hdigits, ← Nat.not_le, Nat.length_toDigits_le_iff (by decide) (by decide), Nat.not_lt]

theorem render?_eq_none_iff {n : Int} : render? n = none ↔ Endless n := by
  rw [Endless, ← maxDigits_lt_length_toString, render?]
  simp

theorem not_endless_zero : ¬ Endless 0 := Nat.not_le.2 (Nat.pow_pos (by decide))

end Decimal.Integer

namespace Value

open Decimal.Integer

mutual

/-- The integers that the expression of a value writes, inside of marked containers that are
shown by dots. -/
def integersIn (around : List Nat) : Value → List Int
  | int n => [n]
  | list items => itemIntegers around items
  | pair a b => integersIn around a ++ integersIn around b
  | set members => itemIntegers around members
  | mapping entries => entryIntegers around entries
  | marked m v => if m ∈ around then [] else integersIn (m :: around) v
  | _ => []

/-- `integersIn` of every item. -/
def itemIntegers (around : List Nat) : List Value → List Int
  | [] => []
  | v :: rest => integersIn around v ++ itemIntegers around rest

/-- `integersIn` of every key and every value. -/
def entryIntegers (around : List Nat) : List (Value × Value) → List Int
  | [] => []
  | (k, v) :: rest => integersIn around k ++ integersIn around v ++ entryIntegers around rest

end

/-- Some integer that the text of a value would write has too many digits. -/
def Endless (v : Value) : Prop := ∃ n ∈ integersIn [] v, Decimal.Integer.Endless n

instance : DecidablePred Endless := fun v =>
  inferInstanceAs (Decidable (∃ n ∈ integersIn [] v, Decimal.Integer.Endless n))

section Option

variable {α β γ : Type} {x : Option α} {y : Option β}

theorem bind_pure_eq_none {f : α → γ} : (x >>= fun a => pure (f a)) = none ↔ x = none := by
  cases x <;> simp

theorem bind_bind_pure_eq_none {f : α → β → γ} :
    (x >>= fun a => y >>= fun b => pure (f a b)) = none ↔ x = none ∨ y = none := by
  cases x <;> cases y <;> simp

end Option

mutual

theorem expressionIn?_eq_none_iff (around : List (Nat × String)) : (v : Value) →
    (expressionIn? around v = none ↔
      ∃ n ∈ integersIn (around.map Prod.fst) v, Decimal.Integer.Endless n)
  | null | bool _ | float _ | text _ | bytes _ | date _ | moment _ | again _ => by
    simp [expressionIn?, integersIn]
  | int n => by simp [expressionIn?, integersIn, render?_eq_none_iff]
  | list items => by
    rw [expressionIn?, bind_pure_eq_none]
    exact expressionsIn?_eq_none_iff around items
  | pair a b => by
    rw [expressionIn?, bind_bind_pure_eq_none, expressionIn?_eq_none_iff around a,
      expressionIn?_eq_none_iff around b]
    simp only [integersIn, List.mem_append, or_and_right, exists_or]
  | set [] => by simp [expressionIn?, integersIn, itemIntegers]
  | set (v :: rest) => by
    rw [expressionIn?, bind_pure_eq_none]
    · exact expressionsIn?_eq_none_iff around (v :: rest)
    · exact List.cons_ne_nil v rest
  | mapping entries => by
    rw [expressionIn?, bind_pure_eq_none]
    exact entryExpressionsIn?_eq_none_iff around entries
  | marked m v => by
    have hmem : m ∈ around.map Prod.fst ↔ (around.find? fun e => e.1 = m).isSome = true := by
      rw [List.find?_isSome, List.mem_map]
      simp only [decide_eq_true_eq]
    rw [expressionIn?, integersIn]
    cases hfound : around.find? fun e => e.1 = m with
    | some e =>
      -- the container is shown by dots
      rw [if_pos (hmem.2 (by rw [hfound]; rfl))]
      simp
    | none =>
      rw [if_neg fun h => by simpa [hfound] using hmem.1 h]
      exact expressionIn?_eq_none_iff ((m, dots v) :: around) v

theorem expressionsIn?_eq_none_iff (around : List (Nat × String)) : (items : List Value) →
    (expressionsIn? around items = none ↔
      ∃ n ∈ itemIntegers (around.map Prod.fst) items, Decimal.Integer.Endless n)
  | [] => by simp [expressionsIn?, itemIntegers]
  | v :: rest => by
    rw [expressionsIn?, bind_bind_pure_eq_none, expressionIn?_eq_none_iff around v,
      expressionsIn?_eq_none_iff around rest]
    simp only [itemIntegers, List.mem_append, or_and_right, exists_or]

theorem entryExpressionsIn?_eq_none_iff (around : List (Nat × String)) :
    (entries : List (Value × Value)) →
    (entryExpressionsIn? around entries = none ↔
      ∃ n ∈ entryIntegers (around.map Prod.fst) entries, Decimal.Integer.Endless n)
  | [] => by simp [entryExpressionsIn?, entryIntegers]
  | (k, v) :: rest => by
    have hk := expressionIn?_eq_none_iff around k
    have hv := expressionIn?_eq_none_iff around v
    have hrest := entryExpressionsIn?_eq_none_iff around rest
    simp only [entryIntegers, List.mem_append, or_and_right, exists_or, ← hk, ← hv, ← hrest]
    rw [entryExpressionsIn?]
    cases expressionIn? around k <;> cases expressionIn? around v <;>
      cases entryExpressionsIn? around rest <;> simp

end

theorem expression?_eq_none_iff {v : Value} : v.expression? = none ↔ v.Endless :=
  expressionIn?_eq_none_iff [] v

theorem display?_eq_none_iff {v : Value} : v.display? = none ↔ v.Endless := by
  cases v with
  | text s | date d | moment m => simp [display?, Endless, integersIn]
  | _ => exact expression?_eq_none_iff

/-- An endless value is there: only what writes an integer is endless, and zero is short. -/
theorem isTruthy_of_endlessIn {around : List Nat} : {v : Value} →
    (∃ n ∈ integersIn around v, Decimal.Integer.Endless n) → v.isTruthy = true
  | null, h | bool _, h | float _, h | text _, h | bytes _, h => by simp [integersIn] at h
  | date _, _ | moment _, _ | pair _ _, _ | again _, _ => rfl
  | int n, h => by
    simp only [integersIn, List.mem_singleton, exists_eq_left] at h
    rw [isTruthy, decide_eq_true_eq]
    rintro rfl
    exact not_endless_zero h
  | list [], h | set [], h => by simp [integersIn, itemIntegers] at h
  | mapping [], h => by simp [integersIn, entryIntegers] at h
  | list (_ :: _), _ | set (_ :: _), _ | mapping (_ :: _), _ => rfl
  | marked m v, h => by
    rw [integersIn] at h
    split at h
    · simp at h
    · exact isTruthy_of_endlessIn (v := v) h

theorem Endless.isTruthy {v : Value} (h : v.Endless) : v.isTruthy = true := isTruthy_of_endlessIn h

end Value

end ProxyMaps
