/-
What malformed patterns match: nothing, as long as the text that is put around
them does not make a pattern of them. It can do that only for those that close
the group around them and open another one in its place (`Reopens`).
-/
import ProxyMaps.Proofs.Regex.Answers

namespace ProxyMaps.Regex

open Lexeme (openGroups)
open Nesting (Overflows)

section

variable [Text.CharacterNames]

/-- A text has a closing bracket in front of which no group is open. -/
def Overcloses (s : List Char) : Prop := openGroups 0 (Lexeme.ofPattern s) = none

/-- A text has as many closing brackets as groups that it opens, none of them too early. -/
def Balanced (s : List Char) : Prop := openGroups 0 (Lexeme.ofPattern s) = some 0

/-- A pattern closes a group that it has not opened, and yet its brackets match those that are
put around it. -/
def Reopens (p : String) : Prop := Overcloses p.toList ∧ Balanced (anchored p).toList

instance : DecidablePred Reopens := fun p =>
  inferInstanceAs (Decidable (openGroups 0 (Lexeme.ofPattern p.toList) = none ∧
    openGroups 0 (Lexeme.ofPattern (anchored p).toList) = some 0))

/-- What is no pattern is none either with the text around it that makes it match whole texts. -/
theorem compile_anchored_of_error {p : String} {f : Fault} (hp : Pattern.compile p = .error f)
    (hreopens : ¬ Reopens p) : ∃ f, Pattern.compile (anchored p) = .error f := by
  simp only [compile_eq_error_iff] at hp ⊢
  by_cases hopen : Overcloses p.toList
  · cases h : Nesting.ofPattern (anchored p).toList with
    | error f => exact ⟨f, rfl⟩
    | ok r => exact absurd ⟨hopen, Nesting.openGroups_of_ok h⟩ hreopens
  · rcases Nesting.ofPattern_anchored_eq hopen with h | h
    · exact ⟨f, by rw [h, hp]; rfl⟩
    · exact h

end

end ProxyMaps.Regex
