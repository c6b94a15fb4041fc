/-
Quoted text as a pattern: it is read as the characters of the text, one
lexeme for each, and becomes the pattern that matches the text and nothing
else.
-/
import ProxyMaps.HostPattern
import ProxyMaps.Proofs.Regex.Language
import ProxyMaps.Proofs.Regex.Nesting
import ProxyMaps.Proofs.Regex.Reading

namespace ProxyMaps.Regex

open HostPattern (special quoteChar)

namespace Lexeme

variable [Text.CharacterNames]

/-- The lexemes of a text in which no character has a meaning of its own. -/
def codes (s : List Char) : List Lexeme := s.map fun c => code c.toNat

theorem escape_special {c : Char} (h : c ∈ special) (rest : List Char) :
    escape c rest = (code c.toNat, rest) := by
  simp only [special, List.mem_cons, List.not_mem_nil, or_false] at h
  rcases h with rfl | rfl | rfl | rfl | rfl | rfl | rfl | rfl | rfl | rfl | rfl | rfl | rfl | rfl
  all_goals rfl

theorem next_plain {c : Char} (h : c ∉ special) (rest : List Char) :
    next false c rest = (some (code c.toNat), rest) := by
  simp only [special, List.mem_cons, List.not_mem_nil, or_false, not_or] at h
  simp [next, h]

/-- A quoted character is read as itself. -/
theorem lexemes_quoteChar {stack : VerboseStack} (hv : isVerbose stack = false) (c : Char)
    (rest : List Char) :
    lexemes stack (quoteChar c ++ rest) = code c.toNat :: lexemes stack rest := by
  by_cases h : c ∈ special
  · have hq : quoteChar c = ['\\', c] := by simp [quoteChar, h]
    have hn : next false '\\' (c :: rest) = (some (code c.toNat), rest) := by
      simp [next, escape_special h]
    rw [hq]
    exact lexemes_take (hv ▸ hn) (by simp)
  · have hq : quoteChar c = [c] := by simp [quoteChar, h]
    rw [hq]
    exact lexemes_take (hv ▸ next_plain h rest) (by simp)

/-- A quoted text is read as its characters. -/
theorem lexemes_quoted {stack : VerboseStack} (hv : isVerbose stack = false) (s rest : List Char) :
    lexemes stack (s.flatMap quoteChar ++ rest) = codes s ++ lexemes stack rest := by
  induction s with
  | nil => rfl
  | cons c s ih =>
    rw [List.flatMap_cons, List.append_assoc, lexemes_quoteChar hv, ih]
    rfl

end Lexeme

namespace Nesting

open Lexeme (code codes)

/-- The pieces of a text in which no character has a meaning of its own. -/
def literalPieces (s : List Char) : List Piece :=
  s.map fun c => ⟨.one (.code false .exact c.toNat), .exactly 1, .other⟩

theorem node_literalPieces (s : List Char) :
    (literalPieces s).map Piece.node = Node.literal s := List.map_map

/-- Characters that stand for themselves are added to the current alternative, one piece for
each. -/
theorem State.run_codes {st : State} (hcase : st.top.flags.caseMode = .exact) (s : List Char) :
    st.run (codes s) = .ok { st with
      top := { st.top with pieces := (literalPieces s).reverse ++ st.top.pieces } } := by
  induction s generalizing st with
  | nil => rfl
  | cons c s ih =>
    have hstep : st.step (code c.toNat) = .ok (st.pushTest (.code false .exact c.toNat)) := by
      rw [← hcase]
      rfl
    simp only [codes, List.map_cons, State.run, hstep]
    refine (ih (by exact hcase)).trans ?_
    simp [literalPieces, State.pushTest, State.push, Frame.push]

end Nesting

end ProxyMaps.Regex
