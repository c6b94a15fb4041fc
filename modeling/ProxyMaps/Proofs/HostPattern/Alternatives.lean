/-
Quoted texts as the alternatives of one pattern. Such a pattern matches exactly
the texts that were quoted (`matchesAll_anyOf`), whatever characters they hold,
also inside of the text that is put around it for whole texts
(`matchesAll_run_anyOf`): no quoted character closes the group there, and none
separates alternatives.
-/
import ProxyMaps.Proofs.HostPattern.Tree
import ProxyMaps.Proofs.Lists
import ProxyMaps.Proofs.Regex.WholeText

namespace ProxyMaps.HostPattern

open Regex Regex.Lexeme Regex.Nesting

/-- The pattern whose alternatives are some texts. -/
def anyOf (values : List String) : String := String.intercalate "|" (values.map quoteMeta)

theorem quoteMeta_eq_anyOf (value : String) : quoteMeta value = anyOf [value] :=
  String.intercalate_singleton.symm

theorem toList_anyOf (values : List String) :
    (anyOf values).toList =
      ['|'].intercalate ((values.map String.toList).map fun s => s.flatMap quoteChar) := by
  have hbar : "|".toList = ['|'] := rfl
  rw [anyOf, String.toList_intercalate, hbar, List.map_map, List.map_map]
  exact congrArg _ (List.map_congr_left fun s _ => toList_quoteMeta s)

/-! ## Lexemes -/

/-- Between quoted texts a bar is read as a bar, and nowhere else. -/
theorem lexemes_alternatives [Text.CharacterNames] (ss : List (List Char)) :
    lexemes [false] (['|'].intercalate (ss.map fun s => s.flatMap quoteChar)) =
      [bar].intercalate (ss.map codes) := by
  induction ss with
  | nil => rfl
  | cons s ss ih =>
    cases ss with
    | nil => simpa using @lexemes_quoted _ [false] rfl s []
    | cons t ts =>
      have hbar : ∀ rest, lexemes [false] ('|' :: rest) = bar :: lexemes [false] rest :=
        fun rest => lexemes_take (l := bar) rfl (by simp)
      simp only [List.map_cons] at ih ⊢
      rw [List.intercalate_cons_cons, List.intercalate_cons_cons, List.append_assoc,
        List.append_assoc, lexemes_quoted rfl, List.singleton_append, hbar, ih]
      rfl

theorem lexemes_anyOf [Text.CharacterNames] (values : List String) :
    Lexeme.ofPattern (anyOf values).toList =
      [bar].intercalate ((values.map String.toList).map codes) := by
  rw [ofPattern_eq, toList_anyOf, lexemes_alternatives]

theorem not_setsGlobals_anyOf [Text.CharacterNames] (values : List String) :
    ¬ SetsGlobals (anyOf values).toList := by
  rintro ⟨on, hon⟩
  rw [lexemes_anyOf] at hon
  rcases List.eq_or_mem_of_mem_intercalate hon with h | ⟨ls, hls, hmem⟩
  · cases h
  · obtain ⟨s, -, rfl⟩ := List.mem_map.1 hls
    obtain ⟨c, -, hc⟩ := List.mem_map.1 hmem
    cases hc

/-! ## Trees -/

/-- The tree of a text. -/
def literalNode (s : List Char) : Node := Node.seqOf (Node.literal s)

/-- A state outside of all groups, with its complete alternatives and the pieces behind them. -/
def branching (done : List (Node × Width)) (ps : List Piece) : State :=
  { top := ⟨.whole, {}, done, ps⟩ }

theorem run_codes_branching (done : List (Node × Width)) (s : List Char) :
    (branching done []).run (codes s) = .ok (branching done (literalPieces s).reverse) := by
  have hrun := @State.run_codes (branching done []) rfl s
  simpa [branching] using hrun

theorem current_branching (done : List (Node × Width)) (s : List Char) :
    (branching done (literalPieces s).reverse).top.current.1 = literalNode s := by
  show Node.seqOf ((literalPieces s).reverse.reverse.map Piece.node) = _
  rw [List.reverse_reverse, node_literalPieces]
  rfl

/-- Texts with bars between them become alternatives behind those that are complete. -/
theorem run_alternatives {ss : List (List Char)} (hne : ss ≠ []) (done : List (Node × Width)) :
    ∃ done' ps, (branching done []).run ([bar].intercalate (ss.map codes)) =
        .ok (branching done' ps) ∧
      (branching done' ps).top.alternatives.map Prod.fst =
        done.reverse.map Prod.fst ++ ss.map literalNode := by
  induction ss generalizing done with
  | nil => exact absurd rfl hne
  | cons s ss ih =>
    have hcurrent := current_branching done s
    cases ss with
    | nil =>
      refine ⟨done, (literalPieces s).reverse, ?_, ?_⟩
      · rw [List.map_singleton, List.intercalate_singleton, run_codes_branching]
      · rw [Frame.alternatives, List.reverse_cons, List.map_append, List.map_singleton, hcurrent]
        rfl
    | cons t ts =>
      -- the bar completes the alternative of `s`
      obtain ⟨done', ps, hrun, hnodes⟩ :=
        ih (by simp) ((branching done (literalPieces s).reverse).top.current :: done)
      refine ⟨done', ps, ?_, ?_⟩
      · rw [List.map_cons, List.map_cons, List.intercalate_cons_cons, List.append_assoc,
          State.run_append, run_codes_branching]
        exact hrun
      · rw [hnodes, List.reverse_cons, List.map_append, List.map_singleton, hcurrent,
          List.append_assoc]
        rfl

/-- Quoted texts, at least one, are the alternatives of a pattern. -/
theorem compile_anyOf [Text.CharacterNames] {values : List String} (hne : values ≠ []) :
    Pattern.compile (anyOf values) = .ok ⟨anyOf values, 0,
      Node.altOf ((values.map String.toList).map literalNode)⟩ := by
  have hne' : values.map String.toList ≠ [] := by simpa using hne
  obtain ⟨done, ps, hrun, hnodes⟩ := run_alternatives hne' []
  have hfinish : (branching done ps).finish = .ok ⟨(branching done ps).top.node, 0⟩ := rfl
  have hparse : Nesting.ofPattern (anyOf values).toList =
      .ok ⟨(branching done ps).top.node, 0⟩ := by
    rw [ofPattern_eq_bind, lexemes_anyOf, ← hfinish]
    exact congrArg (fun r => r.bind State.finish) hrun
  rw [compile_eq_ok_iff, hparse, Frame.node, hnodes]
  exact ⟨rfl, rfl⟩

/-! ## What quoted texts match -/

theorem denotes_alternatives {ss : List (List Char)} (hne : ss ≠ []) :
    Node.Denotes (Node.altOf (ss.map literalNode)) (ss.map fun s => ({s} : Language Char)).sum :=
  .altOf hne fun s _ => Node.denotes_literal s

/-- Quoted texts as alternatives match these texts and no others. -/
theorem matchesAll_anyOf [Text.CharacterNames] {values : List String} (hne : values ≠ []) :
    ∃ p, Pattern.compile (anyOf values) = .ok p ∧
      ∀ s, p.matchesAll s = true ↔ s ∈ values := by
  refine ⟨_, compile_anyOf hne, fun s => ?_⟩
  have hne' : values.map String.toList ≠ [] := by simpa using hne
  rw [Pattern.matchesAll, (denotes_alternatives hne').matchesAll_iff, Node.mem_sum_map]
  constructor
  · rintro ⟨t, ht, hs⟩
    obtain ⟨v, hv, rfl⟩ := List.mem_map.1 ht
    exact String.toList_inj.1 hs ▸ hv
  · intro hs
    exact ⟨s.toList, List.mem_map_of_mem hs, rfl⟩

/-- A quoted text matches the text and no other. -/
theorem matchesAll_quoteMeta [Text.CharacterNames] (value : String) :
    ∃ p, Pattern.compile (quoteMeta value) = .ok p ∧ ∀ s, p.matchesAll s = true ↔ s = value := by
  obtain ⟨p, hp, h⟩ := matchesAll_anyOf (List.cons_ne_nil value [])
  exact ⟨p, quoteMeta_eq_anyOf value ▸ hp, fun s => (h s).trans List.mem_singleton⟩

/-- Whatever the cache was asked before, it says of quoted texts as alternatives that they match
these texts and no others. -/
theorem matchesAll_run_anyOf [Text.CharacterNames] {values : List String} (hne : values ≠ [])
    {c : Cache}
    (hc : c.Faithful) (s : String) :
    ((Cache.matchesAll (anyOf values) s).run c).1 = .ok (values.contains s) := by
  obtain ⟨p, hp, h⟩ := matchesAll_anyOf hne
  obtain ⟨q, hq, -, hmatches⟩ := compile_anchored_of_ok hp (not_setsGlobals_anyOf values)
  have hs : p.matchesAll s = values.contains s := by
    rw [Bool.eq_iff_iff, h, List.contains_iff_mem]
  rw [hc.matchesAll, hq]
  simp only [Except.map, Cache.orMalformed, hmatches, hs]

-- without any text the pattern is empty, and still matches the empty text
example : ((Cache.matchesAll (anyOf []) "").run {}).1 = .ok true := rfl

end ProxyMaps.HostPattern
