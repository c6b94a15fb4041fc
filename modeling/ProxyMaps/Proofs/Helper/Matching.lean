/-
The helpers that match a text against a pattern and against a list of texts.
For the pattern that is made of the quoted texts of the list they give the same
answer (`matchPattern_agrees_matchValues`), whatever has been matched before.
-/
import ProxyMaps.Proofs.Helper.Standard
import ProxyMaps.Proofs.HostPattern.Alternatives

namespace ProxyMaps.Helper

open HostPattern (anyOf quoteMeta)
open Regex (Cache Pattern)

/-! ## Runs -/

theorem Run.map_eq {α β : Type} (f : α → β) (x : Run α) (w : World) :
    (f <$> x : Run β) w = ((x w).1.map f, (x w).2) := by
  rcases hx : x w with ⟨_ | _, _⟩ <;>
    simp only [Functor.map, ExceptT.map, ExceptT.mk, StateT.bind, bind, hx] <;> rfl

theorem Run.fst_ofCache {α : Type} (x : StateM Cache (Except Regex.Fault α)) (w : World) :
    (Run.ofCache x w).1 = (x w.cache).1.mapError .pattern := by
  rw [Run.ofCache]
  rcases x w.cache with ⟨_ | _, _⟩ <;> rfl

theorem allTexts?_map_text (ss : List String) : allTexts? (ss.map .text) = some ss := by
  induction ss with
  | nil => rfl
  | cons s ss ih =>
    rw [allTexts?] at ih ⊢
    rw [List.map_cons, List.mapM_cons, ih]
    rfl

/-! ## Answers -/

section

variable [Text.CharacterNames]

/-- A call of a helper has the same answer whatever the files are and whatever the cache of
patterns was asked before. -/
def AlwaysAnswers (around : Surroundings) (name : String) (args : List Argument) (a : Argument) :
    Prop :=
  ∃ run, (standard around).call name args = .ok run ∧
    ∀ requests files, (run { cache := .after requests, files := files }).1 = .ok a

/-- Whether a text matches a pattern as a whole is what the cache says. -/
theorem alwaysAnswers_matchPattern (around : Surroundings) {pattern s : String} {b : Bool}
    (h : ∀ requests, ((Cache.matchesAll pattern s).run (.after requests)).1 = .ok b) :
    AlwaysAnswers around "matchPattern" [.text pattern, .text s] (.bool b) := by
  have harity : Arity.ofSignature [required "pattern", required "s"] = .ok ⟨2, some 2⟩ := rfl
  refine ⟨_, call_standard (e := patternEntries[0]) (pattern_mem_entries _) harity rfl, ?_⟩
  intro requests files
  show ((Argument.bool <$> Run.ofCache (Cache.matchesAll pattern s) : Run Argument) _).1 = _
  rw [Run.map_eq, Run.fst_ofCache]
  exact congrArg (fun r => (r.mapError RunFault.pattern).map Argument.bool) (h requests)

/-- Whether a text is on a list is told without looking at anything else. -/
theorem alwaysAnswers_matchValues (around : Surroundings) (s : String) (values : List String) :
    AlwaysAnswers around "matchValues" (.text s :: values.map .text)
      (.bool (values.contains s)) := by
  have harity : Arity.ofSignature [required "s", others "allowed_values"] = .ok ⟨1, none⟩ := rfl
  have haccepts : (⟨1, none⟩ : Arity).accepts (.text s :: values.map Argument.text).length =
      true := by
    simp only [Arity.accepts, List.length_cons, Bool.and_true, decide_eq_true_eq]
    omega
  refine ⟨_, call_standard (e := patternEntries[2]) (pattern_mem_entries _) harity haccepts, ?_⟩
  have htexts : allTexts? (.text s :: values.map .text) = some (s :: values) :=
    allTexts?_map_text (s :: values)
  intro requests files
  simp only [patternEntries, List.getElem_cons_succ, List.getElem_cons_zero, htexts]
  rfl

/-- **Quoted alternatives.** A quoted text is a pattern that matches the text and
no other. And texts quoted with bars between them, at least one, match exactly
what is on their list: for every text the helper that matches it against the
pattern and the helper that looks it up among the texts have the same answer,
whatever was matched before. -/
theorem matchPattern_agrees_matchValues (around : Surroundings) {values : List String}
    (hne : values ≠ []) (s : String) :
    (∀ value, ∃ p, Pattern.compile (quoteMeta value) = .ok p ∧
      ∀ t, p.matchesAll t = true ↔ t = value) ∧
    ∃ b, (b = true ↔ s ∈ values) ∧
      AlwaysAnswers around "matchPattern" [.text (anyOf values), .text s] (.bool b) ∧
      AlwaysAnswers around "matchValues" (.text s :: values.map .text) (.bool b) := by
  refine ⟨HostPattern.matchesAll_quoteMeta, values.contains s, List.contains_iff_mem, ?_,
    alwaysAnswers_matchValues around s values⟩
  exact alwaysAnswers_matchPattern around fun requests =>
    HostPattern.matchesAll_run_anyOf hne (Regex.Cache.faithful_after requests) s

end

theorem matchPattern_agrees_matchValues_brackets :
    [")|(", "", "a.b\n"] ≠ [] ∧ anyOf [")|(", "", "a.b\n"] = "\\)\\|\\(||a\\.b\n" ∧
      (AlwaysAnswers {} "matchPattern" [.text "\\)\\|\\(||a\\.b\n", .text ")|("] (.bool true) ∧
        AlwaysAnswers {} "matchValues" [.text ")|(", .text ")|(", .text "", .text "a.b\n"]
          (.bool true)) ∧
      AlwaysAnswers {} "matchPattern" [.text "\\)\\|\\(||a\\.b\n", .text "a.b"] (.bool false) ∧
        AlwaysAnswers {} "matchValues" [.text "a.b", .text ")|(", .text "", .text "a.b\n"]
          (.bool false) := by
  have hne : [")|(", "", "a.b\n"] ≠ [] := by decide
  have htext : anyOf [")|(", "", "a.b\n"] = "\\)\\|\\(||a\\.b\n" := by decide
  obtain ⟨-, b, hb, hlisted⟩ := matchPattern_agrees_matchValues {} hne ")|("
  obtain ⟨-, c, hc, hother⟩ := matchPattern_agrees_matchValues {} hne "a.b"
  obtain rfl : b = true := hb.2 (by decide)
  obtain rfl : c = false := Bool.eq_false_iff.2 fun h => absurd (hc.1 h) (by decide)
  rw [htext] at hlisted hother
  exact ⟨hne, htext, hlisted, hother⟩

end ProxyMaps.Helper
