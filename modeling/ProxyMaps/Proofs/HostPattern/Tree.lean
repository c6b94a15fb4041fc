/-
The trees of route patterns. Every route pattern is read without a fault,
whatever text the host and the path hold: the quoted parts become characters
that stand for themselves, and the parts around them are the same in all
patterns but for the numbers of their groups.
-/
import ProxyMaps.Proofs.Regex.Literal
import ProxyMaps.Regex.Pattern

namespace ProxyMaps.HostPattern

open Regex Regex.Lexeme Regex.Nesting

/-! ## Lexemes -/

/-- The lexemes of a port that may be left out. -/
def portLexemes : List Lexeme :=
  [opening (.capture none), code ':'.toNat, members false [.range '0'.toNat '9'.toNat],
    loop 1 none .greedy, close, loop 0 (some 1) .greedy]

/-- The lexemes of any text up to the next dot. -/
def labelLexemes : List Lexeme := [members true [.code '.'.toNat], loop 0 none .greedy]

/-- The lexemes of any text, behind a slash or not, that may be left out. -/
def restLexemes (slash : Bool) : List Lexeme :=
  opening (.capture none) :: codes (if slash then ['/'] else []) ++
    [anyChar, loop 0 none .greedy, close, loop 0 (some 1) .greedy]

theorem lexemes_port [Text.CharacterNames] {rest : List Char}
    (h : loopMode rest = (.greedy, rest)) :
    lexemes [false] ("(:[0-9]+)?".toList ++ rest) = portLexemes ++ lexemes [false] rest := by
  have hopt : next false '?' rest = (some (loop 0 (some 1) .greedy), rest) := by
    simp [next, loopOf, h]
  exact lexemes_step rfl (by simp) (lexemes_step rfl (by simp) (lexemes_step rfl (by simp)
    (lexemes_step rfl (by simp) (lexemes_step rfl (by simp) (lexemes_step hopt (by simp) rfl)))))

theorem lexemes_label [Text.CharacterNames] (rest : List Char) :
    lexemes [false] (anyLabel.toList ++ (quoteChar '.' ++ rest)) =
      labelLexemes ++ lexemes [false] (quoteChar '.' ++ rest) :=
  lexemes_step rfl (by simp) (lexemes_step rfl (by simp) rfl)

theorem lexemes_rest [Text.CharacterNames] (slash : Bool) :
    lexemes [false] ((if slash then "(/.*)?" else "(.*)?").toList ++ ['$']) =
      restLexemes slash ++ [dollar] := by
  cases slash <;> rfl

/-- Whether a pattern is for all hosts of a domain: the route is a wildcard, its host has a
domain. -/
def coversDomain (host : String) (wildcard : Bool) : Bool :=
  wildcard && !(parentDomain host).isEmpty

/-- The lexemes of the part of a route pattern that matches hosts. -/
def hostLexemes (host : String) (wildcard : Bool) : List Lexeme :=
  if coversDomain host wildcard then labelLexemes ++ codes ('.' :: (parentDomain host).toList)
  else codes host.toList

/-- The text that a path stands for; one of nothing but slashes stands for every path. -/
def pathText (path : String) : List Char := if isRoot path then [] else path.toList

/-- Whether a slash has to stand between a path and what is below it. -/
def needsSlash (path : String) : Bool := isRoot path || !endsWithSlash path

theorem toList_quoteMeta (s : String) : (quoteMeta s).toList = s.toList.flatMap quoteChar :=
  String.toList_ofList

theorem toList_pathPart (path : String) :
    (pathPart path).toList = (pathText path).flatMap quoteChar ++
      (if needsSlash path then "(/.*)?" else "(.*)?").toList := by
  unfold pathPart pathText needsSlash
  by_cases hr : isRoot path = true
  · simp [hr]
  · by_cases he : endsWithSlash path = true <;> simp [hr, he, toList_quoteMeta]

theorem toList_route (host path : String) (wildcard : Bool) :
    (route host path wildcard).toList = '^' :: ((hostPart host wildcard).toList ++
      ("(:[0-9]+)?".toList ++ ((pathText path).flatMap quoteChar ++
        ((if needsSlash path then "(/.*)?" else "(.*)?").toList ++ ['$'])))) := by
  have hstart : "^".toList = ['^'] := rfl
  have hend : "$".toList = ['$'] := rfl
  simp only [route, String.toList_append, toList_pathPart, hstart, hend, List.append_assoc,
    List.cons_append, List.nil_append]

/-- A repetition mark is not lengthened by quoted text or by a group. -/
theorem loopMode_quoted (s rest : List Char) (h : loopMode rest = (.greedy, rest)) :
    loopMode (s.flatMap quoteChar ++ rest) = (.greedy, s.flatMap quoteChar ++ rest) := by
  cases s with
  | nil => exact h
  | cons c s =>
    by_cases hc : c ∈ special
    · have hq : quoteChar c = ['\\', c] := by simp [quoteChar, hc]
      simp [hq, loopMode]
    · have hq : quoteChar c = [c] := by simp [quoteChar, hc]
      simp only [special, List.mem_cons, List.not_mem_nil, or_false, not_or] at hc
      simp [hq, loopMode, hc]

theorem toList_hostPart (host : String) (wildcard : Bool) :
    (hostPart host wildcard).toList =
      if coversDomain host wildcard then
        anyLabel.toList ++ (quoteChar '.' ++ (parentDomain host).toList.flatMap quoteChar)
      else host.toList.flatMap quoteChar := by
  unfold coversDomain
  by_cases h : (wildcard && !(parentDomain host).isEmpty) = true
  · simp only [hostPart, h, if_true, String.toList_append, toList_quoteMeta, List.flatMap_append]
    rfl
  · simp only [hostPart, h, if_false, toList_quoteMeta, Bool.false_eq_true]

theorem lexemes_hostPart [Text.CharacterNames] (host : String) (wildcard : Bool)
    (rest : List Char) :
    lexemes [false] ((hostPart host wildcard).toList ++ rest) =
      hostLexemes host wildcard ++ lexemes [false] rest := by
  rw [toList_hostPart, hostLexemes]
  split
  · rw [List.append_assoc, List.append_assoc, lexemes_label, lexemes_quoteChar rfl,
      lexemes_quoted rfl]
    simp [codes]
  · rw [lexemes_quoted rfl]

theorem lexemes_route [Text.CharacterNames] (host path : String) (wildcard : Bool) :
    Lexeme.ofPattern (route host path wildcard).toList =
      caret :: (hostLexemes host wildcard ++ (portLexemes ++ (codes (pathText path) ++
        (restLexemes (needsSlash path) ++ [dollar])))) := by
  have hgroup : ∀ b : Bool, loopMode ((if b then "(/.*)?" else "(.*)?").toList ++ ['$']) =
      (.greedy, (if b then "(/.*)?" else "(.*)?").toList ++ ['$']) := by
    intro b
    cases b <;> rfl
  rw [ofPattern_eq, toList_route]
  refine lexemes_step rfl (by simp) ?_
  exact (lexemes_hostPart host wildcard _).trans (congrArg _
    ((lexemes_port (loopMode_quoted _ _ (hgroup _))).trans (congrArg _
      ((lexemes_quoted rfl _ _).trans (congrArg _ (lexemes_rest _))))))

/-! ## Trees -/

/-- The tree of any text up to the next dot. -/
def labelNode : Node := .loop 0 none .greedy (.one (.code true .exact '.'.toNat))

/-- The tree of the part of a route pattern that matches hosts. -/
def hostNodes (host : String) (wildcard : Bool) : List Node :=
  if coversDomain host wildcard then
    labelNode :: Node.literal ('.' :: (parentDomain host).toList)
  else Node.literal host.toList

/-- The tree of digits, at least one. -/
def digitsNode : Node :=
  .loop 1 none .greedy (.one (.members false .exact false [.range '0'.toNat '9'.toNat]))

/-- The tree of a port that may be left out. -/
def portNode (number : Nat) : Node :=
  .loop 0 (some 1) .greedy (.group number (Node.seqOf (Node.literal [':'] ++ [digitsNode])))

/-- The tree of any text, behind a slash or not, that may be left out. -/
def restNode (number : Nat) (slash : Bool) : Node :=
  .loop 0 (some 1) .greedy (.group number (Node.seqOf
    (Node.literal (if slash then ['/'] else []) ++ [.loop 0 none .greedy (.one .notNewline)])))

/-- The trees between the ends of a route pattern. -/
def routeNodes (host path : String) (wildcard : Bool) : List Node :=
  hostNodes host wildcard ++ (portNode 1 :: (Node.literal (pathText path) ++
    [restNode 2 (needsSlash path)]))

/-- A state outside of all groups, with its pieces, the last first, and the groups so far. -/
def outside (ps : List Piece) (n : Nat) (ws : List (Nat × Width)) : State :=
  { top := ⟨.whole, {}, [], ps⟩, nextGroup := n, widths := ws }

/-- From a state outside of all groups lexemes add trees and groups to it, and nothing else. -/
def Adds (ls : List Lexeme) (n : Nat) (ns : List Node) (n' : Nat) : Prop :=
  ∀ ps ws, ∃ ps' ws', (outside ps n ws).run ls = .ok (outside ps' n' ws') ∧
    ps'.reverse.map Piece.node = ps.reverse.map Piece.node ++ ns

theorem Adds.append {ls ms : List Lexeme} {n m k : Nat} {ns os : List Node}
    (h₁ : Adds ls n ns m) (h₂ : Adds ms m os k) : Adds (ls ++ ms) n (ns ++ os) k := by
  intro ps ws
  obtain ⟨ps', ws', hr, hp⟩ := h₁ ps ws
  obtain ⟨ps'', ws'', hr', hp'⟩ := h₂ ps' ws'
  refine ⟨ps'', ws'', ?_, by rw [hp', hp, List.append_assoc]⟩
  rw [State.run_append, hr]
  exact hr'

theorem adds_codes (s : List Char) (n : Nat) : Adds (codes s) n (Node.literal s) n := fun ps ws =>
  ⟨(literalPieces s).reverse ++ ps, ws, State.run_codes rfl s, by simp [node_literalPieces]⟩

theorem adds_caret (n : Nat) : Adds [caret] n [.anchor .textStart] n := fun ps ws =>
  ⟨⟨.anchor .textStart, .exactly 0, .place⟩ :: ps, ws, rfl, by simp⟩

theorem adds_dollar (n : Nat) : Adds [dollar] n [.anchor .lastLineEnd] n := fun ps ws =>
  ⟨⟨.anchor .lastLineEnd, .exactly 0, .place⟩ :: ps, ws, rfl, by simp⟩

theorem adds_label (n : Nat) : Adds labelLexemes n [labelNode] n := fun ps ws =>
  ⟨⟨labelNode, _, .loop⟩ :: ps, ws, rfl, by simp⟩

theorem adds_port (n : Nat) : Adds portLexemes n [portNode n] (n + 1) := fun ps ws =>
  ⟨⟨portNode n, _, .loop⟩ :: ps, _, rfl, by simp⟩

theorem adds_rest (n : Nat) (slash : Bool) :
    Adds (restLexemes slash) n [restNode n slash] (n + 1) := by
  intro ps ws
  cases slash
  · exact ⟨⟨restNode n false, _, .loop⟩ :: ps, _, rfl, by simp⟩
  · exact ⟨⟨restNode n true, _, .loop⟩ :: ps, _, rfl, by simp⟩

theorem adds_host (host : String) (wildcard : Bool) (n : Nat) :
    Adds (hostLexemes host wildcard) n (hostNodes host wildcard) n := by
  unfold hostLexemes hostNodes
  split
  · exact (adds_label n).append (adds_codes _ n)
  · exact adds_codes _ n

/-- A pattern is compiled whose lexemes, between the start of the text and a line end, add trees. -/
theorem compile_of_adds [Text.CharacterNames] {s : String} {ls : List Lexeme} {ns : List Node}
    {n : Nat}
    (hs : Lexeme.ofPattern s.toList = caret :: (ls ++ [dollar])) (hadds : Adds ls 1 ns (n + 1)) :
    Pattern.compile s = .ok ⟨s, n, Node.between .textStart .lastLineEnd ns⟩ := by
  obtain ⟨ps, ws, hrun, hps⟩ := (adds_caret 1).append (hadds.append (adds_dollar (n + 1))) [] []
  have hnode : (outside ps (n + 1) ws).top.node = Node.between .textStart .lastLineEnd ns := by
    show Node.seqOf (ps.reverse.map Piece.node) = _
    rw [hps]
    simp [Node.between]
  have hfinish : (outside ps (n + 1) ws).finish = .ok ⟨(outside ps (n + 1) ws).top.node, n⟩ := rfl
  have hparse : Nesting.ofPattern s.toList =
      .ok ⟨Node.between .textStart .lastLineEnd ns, n⟩ := by
    rw [Nesting.ofPattern_eq_bind, hs, ← hnode, ← hfinish]
    exact congrArg (fun r => r.bind State.finish) hrun
  rw [Pattern.compile, hparse]
  rfl

/-- Route patterns are patterns, whatever their hosts and paths hold. -/
theorem compile_route [Text.CharacterNames] (host path : String) (wildcard : Bool) :
    Pattern.compile (route host path wildcard) = .ok ⟨route host path wildcard, 2,
      Node.between .textStart .lastLineEnd (routeNodes host path wildcard)⟩ := by
  have hadds := (adds_host host wildcard 1).append ((adds_port 1).append
    ((adds_codes (pathText path) 2).append (adds_rest 2 (needsSlash path))))
  exact compile_of_adds (by simp [lexemes_route]) hadds

end ProxyMaps.HostPattern
