/-
Patterns that match the whole of a text. What is put around a pattern for that
leaves the pattern as it is, one group further in (`ofPattern_anchored_of_ok`):
a pattern closes every group that it opens and ends outside of comments, so
the bracket behind it closes the group around it. Switches for the whole
pattern are the exception, since they are no longer at its start.

Found in a text at all, the pattern between the two ends of the text is found
from one end to the other (`compile_anchored_of_ok`).
-/
import ProxyMaps.Proofs.Regex.Anchored
import ProxyMaps.Proofs.Regex.Cache
import ProxyMaps.Proofs.Regex.Language

namespace ProxyMaps.Regex

namespace Lexeme

/-! ## The groups that are open behind lexemes -/

/-- Switches for the whole pattern apart, no lexeme touches what lies below all groups. -/
theorem getLast?_after {l : Lexeme} (hl : ∀ on, l ≠ globalFlags on) {v w : Bool}
    {st st' : VerboseStack} (h : after (v :: st) l = w :: st') :
    (w :: st').getLast? = (v :: st).getLast? := by
  rw [← h]
  cases l with
  | globalFlags on => exact absurd rfl (hl on)
  | opening o => cases o <;> exact List.getLast?_cons_cons
  | close =>
    cases st with
    | nil => cases h
    | cons u st => exact List.getLast?_cons_cons.symm
  | _ => rfl

/-- The stack behind lexemes has an entry for every group that is open, and the first one below. -/
theorem foldl_after {ls : List Lexeme} (hglobals : ∀ on, globalFlags on ∉ ls) {v : Bool}
    {st : VerboseStack} {n : Nat} (h : openGroups st.length ls = some n) :
    ∃ w st', ls.foldl after (v :: st) = w :: st' ∧ st'.length = n ∧
      (w :: st').getLast? = (v :: st).getLast? := by
  induction ls generalizing v st with
  | nil =>
    refine ⟨v, st, rfl, ?_, rfl⟩
    cases st <;> simpa [openGroups] using h
  | cons l ls ih =>
    rcases after_cons v st l with ⟨rfl, rfl⟩ | ⟨w, st', hafter, hcount⟩
    · cases h
    · have hl : ∀ on, l ≠ globalFlags on := fun on hon => hglobals on (hon ▸ List.mem_cons_self)
      obtain ⟨u, st'', hfold, hlen, hlast⟩ :=
        ih (v := w) (fun on hon => hglobals on (List.mem_cons_of_mem _ hon)) (hcount ls ▸ h)
      exact ⟨u, st'', by rw [List.foldl_cons, hafter, hfold], hlen,
        hlast.trans (getLast?_after hl hafter)⟩

/-- Where all groups are closed, a pattern is verbose only if it has been switched to that. -/
theorem isVerbose_foldl_after {ls : List Lexeme} (hglobals : ∀ on, globalFlags on ∉ ls)
    (h : openGroups 0 ls = some 0) : isVerbose (ls.foldl after [false, false]) = false := by
  obtain ⟨w, st, hfold, hlen, hlast⟩ := @foldl_after ls hglobals false [] 0 h
  obtain rfl := List.length_eq_zero_iff.1 hlen
  have hstack : ls.foldl after [false, false] = ls.foldl after [false] ++ [false] :=
    @foldl_after_append ls false [] [false] (by simp [h])
  rw [hstack, hfold]
  simpa [isVerbose] using hlast

end Lexeme

namespace Nesting

open Lexeme

/-! ## Lexemes that have been taken -/

theorem State.not_bad_of_run {s s' : State} {ls : List Lexeme} (h : s.run ls = .ok s') (f : Fault) :
    bad f ∉ ls := by
  induction ls generalizing s with
  | nil => exact List.not_mem_nil
  | cons l ls ih =>
    simp only [run] at h
    split at h
    next s₁ h₁ =>
      intro hmem
      rcases List.mem_cons.1 hmem with rfl | hmem
      · cases h₁
      · exact ih h hmem
    · cases h

/-- In front of the text that closes the group around it, a pattern keeps its lexemes, unless it
has switches for the whole pattern. -/
theorem lexemes_closing_of_ok [Text.CharacterNames] {p : List Char} {r : Result}
    (hp : ofPattern p = .ok r) (hglobals : ∀ on, globalFlags on ∉ Lexeme.ofPattern p) :
    lexemes [false, false] (p ++ closing) = Lexeme.ofPattern p ++ [close, textEnd] := by
  obtain ⟨s, hrun, -⟩ := exists_run_of_ok hp
  have hbad : ∀ f, bad f ∉ Lexeme.ofPattern p := State.not_bad_of_run hrun
  have hgroups := openGroups_of_ok hp
  have hinside : lexemes [false, false] p = Lexeme.ofPattern p := by
    rw [ofPattern_eq] at hgroups ⊢
    have hstack : openGroups ([] : VerboseStack).length (lexemes [false] p) ≠ none := by
      simp [hgroups]
    exact lexemes_append [false] hstack
  obtain ⟨front, ls, ls', hls, hls', hends⟩ := prolongs [false, false] p
  rw [hinside] at hls
  rw [hls] at hglobals hgroups hbad ⊢
  cases hends with
  | complete => rw [hls', List.append_nil]
  | fault f => exact absurd (List.mem_append_right _ (List.mem_singleton_self _)) (hbad f)
  | broken h _ =>
    rcases h with rfl | ⟨rfl, hverbose⟩
    · exact absurd (List.mem_append_right _ (List.mem_singleton_self _)) (hbad _)
    · rw [List.append_nil] at hglobals hgroups
      rw [isVerbose_foldl_after hglobals hgroups] at hverbose
      cases hverbose

/-- With the text around it that makes it match whole texts, a pattern is itself between the
ends of the text, unless it has switches for the whole pattern. -/
theorem ofPattern_anchored_of_ok [Text.CharacterNames] {p : String} {r : Result}
    (hp : ofPattern p.toList = .ok r)
    (hglobals : ∀ on, globalFlags on ∉ Lexeme.ofPattern p.toList) :
    ofPattern (anchored p).toList = .ok (anchoredResult r) := by
  obtain ⟨s, hrun, hfinish⟩ := exists_run_of_ok hp
  have hrooted : s.Rooted := State.Rooted.run (s := {}) rfl hrun
  have hgroups : openGroups ([] : VerboseStack).length (Lexeme.ofPattern p.toList) ≠ none := by
    rw [List.length_nil, openGroups_of_ok hp]
    exact Option.some_ne_none 0
  have hrunInside : (State.inside anchorFrame {}).run (Lexeme.ofPattern p.toList) =
      .ok (s.inside anchorFrame) := by
    rcases @State.run_inside anchorFrame {} _ hgroups with h | ⟨⟨on, hon⟩, -⟩
    · rw [h, hrun]
      rfl
    · exact absurd hon (hglobals on)
  rw [ofPattern_anchored, lexemes_closing_of_ok hp hglobals, State.run_append, hrunInside]
  exact (State.finish_run_inside hrooted).trans (by rw [hfinish]; rfl)

end Nesting

/-! ## Matching the whole of a text -/

theorem Node.matchesAll_iff {n : Node} {s : List Char} :
    n.matchesAll s = true ↔ ∃ q ∈ (n.run (Place.start s)).toList, q.after = [] := by
  simp [matchesAll, List.isEmpty_iff]

/-- A pattern that denotes a language matches the texts of the language as a whole. -/
theorem Node.Denotes.matchesAll_iff {n : Node} {L : Language Char} (h : n.Denotes L)
    {s : List Char} :
    n.matchesAll s = true ↔ s ∈ L := by
  rw [Node.matchesAll_iff]
  constructor
  · rintro ⟨q, hq, hend⟩
    obtain ⟨u, hu, hp⟩ := h.sound _ q hq
    have hs : s = u ++ q.after := hp.after
    rw [hs, hend, List.append_nil]
    exact hu
  · intro hs
    obtain ⟨q, hq, hp⟩ := h.complete (Place.start s) s hs (List.prefix_refl s)
    refine ⟨q, hq, ?_⟩
    rw [hp.drop]
    exact List.drop_length

section

variable [Text.CharacterNames]

/-- Switches for the whole pattern are in a pattern text. -/
def SetsGlobals (s : List Char) : Prop := ∃ on, Lexeme.globalFlags on ∈ Lexeme.ofPattern s

theorem compile_eq_ok_iff {text : String} {p : Pattern} :
    Pattern.compile text = .ok p ↔
      p.text = text ∧ Nesting.ofPattern text.toList = .ok ⟨p.node, p.groups⟩ := by
  obtain ⟨text', groups, node⟩ := p
  rw [Pattern.compile]
  cases Nesting.ofPattern text.toList with
  | error f => simp [Except.map]
  | ok r =>
    obtain ⟨node', groups'⟩ := r
    simp only [Except.map, Except.ok.injEq, Pattern.mk.injEq, Nesting.Result.mk.injEq]
    grind

/-- A pattern is compiled with its groups as they are, and found where it matches the whole text. -/
theorem compile_anchored_of_ok {text : String} {p : Pattern} (hp : Pattern.compile text = .ok p)
    (hglobals : ¬ SetsGlobals text.toList) :
    ∃ q, Pattern.compile (anchored text) = .ok q ∧ q.groups = p.groups ∧
      ∀ s, q.matchesIn s = p.matchesAll s := by
  obtain ⟨-, hnode⟩ := compile_eq_ok_iff.1 hp
  have hanchored := Nesting.ofPattern_anchored_of_ok hnode fun on hon => hglobals ⟨on, hon⟩
  refine ⟨⟨anchored text, p.groups, Node.between .textStart .textEnd [p.node]⟩,
    compile_eq_ok_iff.2 ⟨rfl, hanchored⟩, rfl, fun s => ?_⟩
  rw [Bool.eq_iff_iff, Pattern.matchesIn, Pattern.search, Option.isSome_map,
    Node.search_between_isSome_iff, Pattern.matchesAll, Node.matchesAll_iff]
  simp [Place.isAt, Node.seqOf, List.isEmpty_iff]

/-- **Whole texts.** Whatever the cache was asked before, a pattern without
switches for the whole pattern matches a text as a whole exactly if one of its
ways to match at the start of the text ends at the end of the text. There is no
limit to how deep groups nest, so the group around the pattern is not too many. -/
theorem matchesAll_of_compile {text : String} {p : Pattern} (hp : Pattern.compile text = .ok p)
    (hglobals : ¬ SetsGlobals text.toList) (requests : List Cache.Request) (s : String) :
    ((Cache.matchesAll text s).run (.after requests)).1 = .ok (p.matchesAll s) := by
  obtain ⟨q, hq, -, hmatches⟩ := compile_anchored_of_ok hp hglobals
  rw [(Cache.faithful_after requests).matchesAll, hq]
  simp only [Except.map, Cache.orMalformed, hmatches]

end

theorem matchesAll_second_alternative :
    ∃ p, Pattern.compile "a|ab" = .ok p ∧ ¬ SetsGlobals "a|ab".toList ∧
      ((Cache.matchesAll "a|ab" "ab").run (.after [.compile "a"])).1 = .ok (p.matchesAll "ab") ∧
      p.matchesAll "ab" = true ∧ p.matchesAll "ab\n" = false := by
  have hlexemes : Lexeme.ofPattern "a|ab".toList = [.code 97, .bar, .code 97, .code 98] := rfl
  have hglobals : ¬ SetsGlobals "a|ab".toList := by
    rw [SetsGlobals, hlexemes]
    simp
  exact ⟨_, rfl, hglobals, matchesAll_of_compile rfl hglobals _ _, rfl, rfl⟩

end ProxyMaps.Regex
