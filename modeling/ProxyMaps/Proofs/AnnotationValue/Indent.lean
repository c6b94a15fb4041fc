/-
Indented text, line by line. The lines of an indented text are the lines of the
text, each indented (`splitOn_indentLines`), and what is indented twice is
indented once by the sum (`indentLine_indentLine`). A text is refused only for
more blanks than a text can have, so these laws hold up to that number
(`indents_iff`).
-/
import Mathlib.Data.List.Basic
import Mathlib.Data.List.Forall2
import ProxyMaps.Annotation
import ProxyMaps.Proofs.Lists

namespace ProxyMaps.AnnotationValue

/-- The lines of a text. -/
def linesOf (text : String) : List (List Char) := List.splitOn '\n' text.toList

/-- The text of some lines. -/
def ofLines (lines : List (List Char)) : String := String.ofList (['\n'].intercalate lines)

/-- A line behind `n` blanks; an empty line stays empty. -/
structure LineIndented (n : Nat) (line indented : List Char) : Prop where
  isEmpty_iff : indented = [] ↔ line = []
  blanks : indented ≠ [] → indented.take n = List.replicate n ' '
  rest : indented ≠ [] → indented.drop n = line

/-- A line without its first `n` characters; an empty line stays empty. -/
def unindentLine (n : Nat) (line : List Char) : List Char :=
  if line.isEmpty then line else line.drop n

/-- The text is indented line by line, and taking the blanks away gives it back. -/
def IndentsLines (text : String) (n : Nat) : Prop :=
  ∃ out, indent text n = .ok out ∧ List.Forall₂ (LineIndented n) (linesOf text) (linesOf out) ∧
    ofLines ((linesOf out).map (unindentLine n)) = text

/-- The text is indented by `a` and then by `b` as it is by their sum. -/
def IndentsTwice (text : String) (a b : Nat) : Prop :=
  ∃ once twice, indent text a = .ok once ∧ indent once b = .ok twice ∧
    indent text (a + b : Nat) = .ok twice

/-! ## Lines -/

theorem indentLine_indentLine (a b : Nat) (line : List Char) :
    indentLine b (indentLine a line) = indentLine (a + b) line := by
  cases line with
  | nil => rfl
  | cons c line => simp [indentLine, Nat.add_comm a b, ← List.append_assoc]

theorem lineIndented_indentLine (n : Nat) (line : List Char) :
    LineIndented n line (indentLine n line) := by
  cases line with
  | nil => constructor <;> simp [indentLine]
  | cons c line => constructor <;> simp [indentLine]

theorem unindentLine_indentLine (n : Nat) (line : List Char) :
    unindentLine n (indentLine n line) = line := by
  cases line with
  | nil => rfl
  | cons c line => simp [indentLine, unindentLine]

/-! ## Texts -/

theorem ofLines_linesOf (text : String) : ofLines (linesOf text) = text := by
  rw [ofLines, linesOf, List.intercalate_splitOn, String.ofList_toList]

theorem splitOn_indentLines (n : Nat) (text : List Char) :
    List.splitOn '\n' (indentLines n text) = (List.splitOn '\n' text).map (indentLine n) := by
  rw [indentLines]
  refine List.splitOn_intercalate '\n' ?_ (by simp)
  intro p hp
  obtain ⟨line, hline, rfl⟩ := List.mem_map.1 hp
  have hnone := List.not_mem_of_mem_splitOn hline
  unfold indentLine
  split
  · exact hnone
  · simp [hnone]

theorem indentLines_indentLines (a b : Nat) (text : List Char) :
    indentLines b (indentLines a text) = indentLines (a + b) text := by
  rw [indentLines, splitOn_indentLines, List.map_map, indentLines]
  congr 2
  funext line
  exact indentLine_indentLine a b line

/-- A text is indented unless there are too many blanks for one that is not empty. -/
theorem indent_eq (text : String) (blanks : Int) :
    ((text ≠ "" ∧ maxBlanks < blanks) ∧ indent text blanks = .error .tooWide) ∨
      ((text = "" ∨ blanks ≤ maxBlanks) ∧
        indent text blanks = .ok (String.ofList (indentLines blanks.toNat text.toList))) := by
  rw [indent]
  by_cases hwide : (!text.isEmpty && decide (maxBlanks < blanks)) = true
  · refine .inl ⟨?_, if_pos hwide⟩
    simpa using hwide
  · refine .inr ⟨?_, if_neg hwide⟩
    simpa [Classical.or_iff_not_imp_left] using hwide

theorem indent_eq_ok_iff {text out : String} {n : Nat} :
    indent text n = .ok out ↔
      (text = "" ∨ n ≤ maxBlanks) ∧ out = String.ofList (indentLines n text.toList) := by
  have hcast : (n : Int) ≤ maxBlanks ↔ n ≤ maxBlanks := Int.ofNat_le
  rcases indent_eq text n with ⟨⟨hne, hwide⟩, heq⟩ | ⟨hfits, heq⟩
  · have hwide' : ¬ n ≤ maxBlanks := by omega
    simp [heq, hne, hwide']
  · rw [hcast] at hfits
    simp [heq, hfits, eq_comm]

theorem linesOf_indented (n : Nat) (text : String) :
    linesOf (String.ofList (indentLines n text.toList)) = (linesOf text).map (indentLine n) := by
  rw [linesOf, String.toList_ofList, splitOn_indentLines, linesOf]

theorem indentsLines_iff {text : String} {n : Nat} :
    IndentsLines text n ↔ text = "" ∨ n ≤ maxBlanks := by
  constructor
  · intro h
    obtain ⟨out, hout, -⟩ := h
    exact (indent_eq_ok_iff.1 hout).1
  · intro h
    refine ⟨_, indent_eq_ok_iff.2 ⟨h, rfl⟩, ?_, ?_⟩
    · rw [linesOf_indented, List.forall₂_map_right_iff]
      exact List.forall₂_same.2 fun line _ => lineIndented_indentLine n line
    · have hback : unindentLine n ∘ indentLine n = id := funext (unindentLine_indentLine n)
      rw [linesOf_indented, List.map_map, hback, List.map_id, ofLines_linesOf]

theorem indentsTwice_iff {text : String} {a b : Nat} :
    IndentsTwice text a b ↔ text = "" ∨ a + b ≤ maxBlanks := by
  constructor
  · intro h
    obtain ⟨once, twice, -, -, hsum⟩ := h
    exact (indent_eq_ok_iff.1 hsum).1
  · intro h
    have ha : text = "" ∨ a ≤ maxBlanks := h.imp_right fun h => by omega
    have hb : String.ofList (indentLines a text.toList) = "" ∨ b ≤ maxBlanks := by
      refine h.imp (fun h => ?_) fun h => by omega
      rw [h]
      rfl
    refine ⟨_, _, indent_eq_ok_iff.2 ⟨ha, rfl⟩, indent_eq_ok_iff.2 ⟨hb, rfl⟩, ?_⟩
    refine indent_eq_ok_iff.2 ⟨h, ?_⟩
    rw [String.toList_ofList, indentLines_indentLines]

/-- **Indentation.** To indent a text twice is to indent it by the sum, exactly
if the text is empty or the sum is at most what a text can have of blanks. Up to
that number an indented text has the lines of the text, the empty ones empty and
each other one behind so many blanks, and without these it is the text.

The limit is that of the length of a text; how much memory there is for so many
blanks is not in the model. -/
theorem indents_iff (text : String) (a b : Nat) :
    (IndentsTwice text a b ↔ text = "" ∨ a + b ≤ maxBlanks) ∧
      (IndentsLines text a ↔ text = "" ∨ a ≤ maxBlanks) :=
  ⟨indentsTwice_iff, indentsLines_iff⟩

/-- Two empty lines are not left as they are if there are too many blanks to put in front of
them. -/
theorem not_indentsLines_of_wide : ¬ IndentsLines "\n" 9223372036854775808 := by
  intro h
  obtain ⟨out, hout, -⟩ := h
  exact absurd (indent_eq_ok_iff.1 hout).1 (by decide)

end ProxyMaps.AnnotationValue
