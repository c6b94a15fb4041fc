/-
The language of the patterns for a whole domain: the hosts one label below it,
each with a given path in one piece behind it and, unless the path is exact,
with anything below the path (`ServesBelow`).

Host and path are quoted together, behind the pattern for any label, so the
tree is the same for all of them but for the characters; what may follow is one
group with an empty alternative.
-/
import ProxyMaps.Proofs.HostPattern.RouteLanguage

namespace ProxyMaps.HostPattern

open Regex Regex.Lexeme Regex.Nesting Regex.Node
open scoped Computability

/-- Hosts one label below a domain with a path, and what is below the path unless it is exact. -/
def ServesBelow (domain path : String) (exactPath : Bool) (s : String) : Prop :=
  ∃ label rest : String, '.' ∉ label.toList ∧ s = label ++ "." ++ domain ++ path ++ rest ∧
    (rest = "" ∨ exactPath = false ∧ ∃ below, rest = "/" ++ below)

/-! ## Lexemes and trees -/

/-- The lexemes of a slash and any text behind it, or else of nothing. -/
def belowLexemes : List Lexeme :=
  [opening (.capture none), bar, code '/'.toNat, anyChar, loop 0 none .greedy, close]

/-- The tree of a slash and any text behind it, or else of nothing. -/
def belowNode (number : Nat) : Node :=
  .group number (.alt (seqOf [])
    (seqOf (literal ['/'] ++ [.loop 0 none .greedy (.one .notNewline)])))

/-- What stands in a pattern behind the path. -/
def endLexemes (exactPath : Bool) : List Lexeme := if exactPath then [] else belowLexemes

/-- The trees of what stands in a pattern behind the path. -/
def endNodes (exactPath : Bool) : List Node := if exactPath then [] else [belowNode 1]

/-- The trees between the ends of the pattern of a domain. -/
def subdomainNodes (domain path : String) (exactPath : Bool) : List Node :=
  labelNode :: (literal ('.' :: (domain.toList ++ path.toList)) ++ endNodes exactPath)

theorem toList_subdomain {host path : String} (exactPath : Bool) (h : parentDomain host ≠ "") :
    (subdomain host path exactPath).toList = '^' :: (anyLabel.toList ++ (quoteChar '.' ++
      (((parentDomain host).toList ++ path.toList).flatMap quoteChar ++
        (if exactPath then ['$'] else "(|/.*)$".toList)))) := by
  have hempty : (parentDomain host).isEmpty = false := String.isEmpty_eq_false_iff.2 h
  have hstart : "^".toList = ['^'] := rfl
  have hdot : ".".toList = ['.'] := rfl
  have hend : "$".toList = ['$'] := rfl
  cases exactPath <;>
    simp [subdomain, hempty, hstart, hdot, hend, toList_quoteMeta, String.toList_append]

theorem lexemes_end [Text.CharacterNames] (exactPath : Bool) :
    lexemes [false] (if exactPath then ['$'] else "(|/.*)$".toList) =
      endLexemes exactPath ++ [dollar] := by
  cases exactPath <;> rfl

theorem lexemes_subdomain [Text.CharacterNames] {host path : String} (exactPath : Bool)
    (h : parentDomain host ≠ "") :
    Lexeme.ofPattern (subdomain host path exactPath).toList =
      caret :: ((labelLexemes ++ (codes ('.' :: ((parentDomain host).toList ++ path.toList)) ++
        endLexemes exactPath)) ++ [dollar]) := by
  have hcaret : after [false] caret = [false] := rfl
  rw [ofPattern_eq, toList_subdomain exactPath h]
  refine lexemes_step rfl (by simp) ?_
  rw [hcaret, lexemes_label, lexemes_quoteChar rfl, lexemes_quoted rfl, lexemes_end]
  simp [codes]

theorem adds_end (exactPath : Bool) :
    ∃ n, Adds (endLexemes exactPath) 1 (endNodes exactPath) (n + 1) := by
  cases exactPath with
  | true => exact ⟨0, fun ps ws => ⟨ps, ws, rfl, (List.append_nil _).symm⟩⟩
  | false => exact ⟨1, fun ps ws => ⟨⟨belowNode 1, _, .other⟩ :: ps, _, rfl, by simp [endNodes]⟩⟩

/-- The patterns of domains are patterns, whatever the domain and the path hold. -/
theorem compile_subdomain [Text.CharacterNames] {host : String} (path : String) (exactPath : Bool)
    (h : parentDomain host ≠ "") :
    ∃ groups, Pattern.compile (subdomain host path exactPath) =
      .ok ⟨subdomain host path exactPath, groups, between .textStart .lastLineEnd
        (subdomainNodes (parentDomain host) path exactPath)⟩ := by
  obtain ⟨n, hend⟩ := adds_end exactPath
  exact ⟨n, compile_of_adds (lexemes_subdomain exactPath h)
    ((adds_label 1).append ((adds_codes _ 1).append hend))⟩

/-! ## The language -/

/-- What may stand behind the path. -/
def ends (exactPath : Bool) : Language Char := if exactPath then 1 else rests true

theorem denotes_below (n : Nat) : Denotes (belowNode n) (rests true) :=
  (denotes_empty.alt ((denotes_literal ['/']).seqOf_append (s := literal ['/'])
    (t := [.loop 0 none .greedy (.one .notNewline)]) denotes_star)).group n

theorem denotes_end (exactPath : Bool) : Denotes (seqOf (endNodes exactPath)) (ends exactPath) := by
  cases exactPath with
  | true => exact denotes_empty
  | false => exact denotes_below 1

theorem denotes_subdomain (domain path : String) (exactPath : Bool) :
    Denotes (seqOf (subdomainNodes domain path exactPath))
      (labels * ({'.' :: (domain.toList ++ path.toList)} * ends exactPath)) :=
  denotes_star.seqOf_cons ((denotes_literal _).seqOf_append (denotes_end exactPath))

theorem mem_ends {rest : String} {exactPath : Bool} (h : '\n' ∉ rest.toList) :
    rest.toList ∈ ends exactPath ↔
      rest = "" ∨ exactPath = false ∧ ∃ below, rest = "/" ++ below := by
  cases exactPath with
  | true => simp [ends, Language.mem_one]
  | false =>
    have hbelow : (∃ r, rest.toList = ['/'] ++ r) ↔ ∃ below, rest = "/" ++ below := by
      constructor
      · intro hr
        obtain ⟨r, hr⟩ := hr
        exact ⟨String.ofList r, String.toList_inj.1 (by simp [hr])⟩
      · intro hr
        obtain ⟨below, rfl⟩ := hr
        exact ⟨below.toList, by simp⟩
    simp only [ends, Bool.false_eq_true, if_false, true_and]
    rw [mem_rests h, if_pos rfl, String.toList_eq_nil_iff, hbelow]

theorem mem_subdomain_language {domain path s : String} {exactPath : Bool} (hs : '\n' ∉ s.toList) :
    s.toList ∈ labels * ({'.' :: (domain.toList ++ path.toList)} * ends exactPath) ↔
      ServesBelow domain path exactPath s := by
  simp only [Language.mem_mul, ServesBelow]
  constructor
  · intro h
    obtain ⟨label, hlabel, _, ⟨_, rfl, rest, hrest, rfl⟩, hs'⟩ := h
    have hline : '\n' ∉ (String.ofList rest).toList := by
      rw [String.toList_ofList]
      exact fun hm => hs (hs' ▸ List.mem_append_right _ (List.mem_append_right _ hm))
    refine ⟨String.ofList label, String.ofList rest, ?_, String.toList_inj.1 ?_, ?_⟩
    · simpa using mem_labels.1 hlabel
    · simp [← hs']
    · exact (mem_ends hline).1 (by simpa using hrest)
  · intro h
    obtain ⟨label, rest, hlabel, rfl, hrest⟩ := h
    have hline : '\n' ∉ rest.toList := fun hm => hs (by simp [hm])
    exact ⟨_, mem_labels.2 hlabel, _, ⟨_, rfl, _, (mem_ends hline).2 hrest, rfl⟩, by simp⟩

/-- **The language of the pattern of a domain.** If a host has a domain, its
pattern for the domain is a pattern, and in a text of one line it finds exactly
the hosts one label below the domain with the path behind them, and with what is
below the path unless that is exact. -/
theorem subdomain_matches_iff_servesBelow [Text.CharacterNames] {host domain : String}
    (hdomain : HasDomain host domain)
    (hne : domain ≠ "") (path : String) (exactPath : Bool) :
    ∃ pat, Pattern.compile (subdomain host path exactPath) = .ok pat ∧
      ∀ s : String, '\n' ∉ s.toList →
        (pat.matchesIn s = true ↔ ServesBelow domain path exactPath s) := by
  obtain rfl := hdomain.eq_parentDomain
  obtain ⟨groups, hcompile⟩ := compile_subdomain path exactPath hne
  refine ⟨_, hcompile, fun s hs => ?_⟩
  rw [matchesIn_line_iff (denotes_subdomain _ path exactPath) hs, mem_subdomain_language hs]

theorem subdomain_matches_neighbour :
    HasDomain "www.b.(c)" "b.(c)" ∧ "b.(c)" ≠ "" ∧
      ∃ pat, Pattern.compile (subdomain "www.b.(c)" "/x" false) = .ok pat ∧
        '\n' ∉ "other.b.(c)/x/y".toList ∧ pat.matchesIn "other.b.(c)/x/y" = true := by
  have hdomain : HasDomain "www.b.(c)" "b.(c)" := ⟨"www", by decide, by decide⟩
  have hline : '\n' ∉ "other.b.(c)/x/y".toList := by decide
  obtain ⟨pat, hpat, h⟩ := subdomain_matches_iff_servesBelow hdomain (by decide) "/x" false
  exact ⟨hdomain, by decide, pat, hpat, hline,
    (h _ hline).2 ⟨"other", "/y", by decide, by decide, .inr ⟨rfl, "y", by decide⟩⟩⟩

end ProxyMaps.HostPattern
