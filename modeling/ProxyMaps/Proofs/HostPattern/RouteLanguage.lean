/-
The language of route patterns: what a route pattern matches is exactly what
the route serves (`Serves`).

The tree of a route pattern denotes the product of three languages, one for
hosts, one for ports and one for paths; on texts without line feeds each of
them is the part of `Serves` of the same name.
-/
import ProxyMaps.Proofs.HostPattern.Parts
import ProxyMaps.Proofs.HostPattern.Tree

namespace ProxyMaps.HostPattern

open Regex Regex.Node
open scoped Computability

/-! ## The languages of the parts -/

/-- The texts of any length of characters other than a dot. -/
def labels : Language Char := (charsOf (.code true .exact '.'.toNat))∗

/-- The hosts of a route pattern. -/
def hosts (host : String) (wildcard : Bool) : Language Char :=
  if coversDomain host wildcard then labels * {'.' :: (parentDomain host).toList}
  else {host.toList}

/-- Digits, at least one. -/
def digits : Language Char :=
  charsOf (.members false .exact false [.range '0'.toNat '9'.toNat]) ^ 1 *
    (charsOf (.members false .exact false [.range '0'.toNat '9'.toNat]))∗

/-- Ports that may be left out. -/
def ports : Language Char := 1 + {[':']} * digits

/-- What may follow a path. -/
def rests (slash : Bool) : Language Char :=
  1 + {if slash then ['/'] else []} * (charsOf .notNewline)∗

/-- The paths of a route pattern. -/
def paths (path : String) : Language Char := {pathText path} * rests (needsSlash path)

theorem denotes_star {t : CharTest} : Denotes (.loop 0 none .greedy (.one t)) (charsOf t)∗ := by
  have h := (denotes_one t).atLeast 0
  rwa [pow_zero, one_mul] at h

theorem denotes_host (host : String) (wildcard : Bool) :
    Denotes (seqOf (hostNodes host wildcard)) (hosts host wildcard) := by
  unfold hostNodes hosts
  split
  · exact denotes_star.seqOf_cons (denotes_literal _)
  · exact denotes_literal _

theorem denotes_port (n : Nat) : Denotes (portNode n) ports :=
  (((denotes_literal [':']).seqOf_append (s := literal [':']) (t := [digitsNode])
    ((denotes_one _).atLeast 1)).group n).optional

theorem denotes_rest (n : Nat) (slash : Bool) : Denotes (restNode n slash) (rests slash) :=
  (((denotes_literal _).seqOf_append (t := [.loop 0 none .greedy (.one .notNewline)])
    denotes_star).group n).optional

theorem denotes_route (host path : String) (wildcard : Bool) :
    Denotes (seqOf (routeNodes host path wildcard))
      (hosts host wildcard * (ports * paths path)) :=
  (denotes_host host wildcard).seqOf_append ((denotes_port 1).seqOf_cons
    ((denotes_literal _).seqOf_append (t := [restNode 2 _]) (denotes_rest 2 _)))

/-! ## What the parts hold -/

theorem mem_labels {u : List Char} : u ∈ labels ↔ '.' ∉ u := by
  simp only [labels, mem_kstar_charsOf, passes_code_not_iff]
  exact ⟨fun h hm => h _ hm rfl, fun h c hc hd => h (hd ▸ hc)⟩

theorem mem_hosts {host s : String} {wildcard : Bool} :
    s.toList ∈ hosts host wildcard ↔ ServesHost host wildcard s := by
  unfold hosts ServesHost
  by_cases hc : coversDomain host wildcard = true
  · have hc' := hc
    simp only [coversDomain, Bool.and_eq_true, Bool.not_eq_true',
      String.isEmpty_eq_false_iff] at hc'
    obtain ⟨hw, hd⟩ := hc'
    have hs : s.toList ∈ labels * {'.' :: (parentDomain host).toList} ↔
        HasDomain s (parentDomain host) := by
      simp only [hasDomain_iff, Text.cutFirst?_eq_some_iff, Language.mem_mul]
      constructor
      · intro h
        obtain ⟨a, ha, _, rfl, h⟩ := h
        exact ⟨a, h.symm, mem_labels.1 ha⟩
      · intro h
        obtain ⟨a, h, ha⟩ := h
        exact ⟨a, mem_labels.2 ha, _, rfl, h.symm⟩
    rw [if_pos hc, hs]
    constructor
    · exact fun h => .inr ⟨hw, _, hd, hasDomain_parentDomain hd, h⟩
    · intro h
      rcases h with rfl | ⟨-, domain, -, hh, h⟩
      · exact hasDomain_parentDomain hd
      · exact hh.eq_parentDomain ▸ h
  · rw [if_neg hc]
    constructor
    · exact fun h => .inl (String.toList_inj.1 h)
    · intro h
      rcases h with rfl | ⟨hw, domain, hd, hh, -⟩
      · rfl
      · simp [coversDomain, hw, hh.eq_parentDomain, hd] at hc

theorem mem_digits {u : List Char} : u ∈ digits ↔ u ≠ [] ∧ ∀ c ∈ u, '0' ≤ c ∧ c ≤ '9' := by
  have hone : ∀ c : Char, (CharTest.members false .exact false
      [.range '0'.toNat '9'.toNat]).passes c = true ↔ '0' ≤ c ∧ c ≤ '9' := by
    intro c
    simp only [CharTest.passes, CharTest.inClass, ClassItem.holds, List.any_cons, List.any_nil,
      Bool.or_false, bne_iff_ne, ne_eq, Bool.not_eq_false, Bool.and_eq_true, decide_eq_true_eq,
      not_true_eq_false, decide_false, Bool.false_and, if_false, Bool.false_eq_true]
    rfl
  simp only [digits, pow_one, Language.mem_mul, mem_kstar_charsOf, hone]
  constructor
  · intro h
    obtain ⟨_, ⟨c, hc, rfl⟩, v, hv, rfl⟩ := h
    exact ⟨by simp, by simpa using ⟨(hone c).1 hc, hv⟩⟩
  · intro h
    obtain ⟨hne, h⟩ := h
    cases u with
    | nil => exact absurd rfl hne
    | cons c u =>
      exact ⟨[c], ⟨c, (hone c).2 (h c (by simp)), rfl⟩, u, fun d hd => h d (by simp [hd]), rfl⟩

theorem mem_ports {s : String} : s.toList ∈ ports ↔ IsPort s := by
  have htext : ∀ u : List Char, (":" ++ String.ofList u).toList = [':'] ++ u := by
    intro u
    simp
  simp only [ports, IsPort, Language.mem_add, Language.mem_one, String.toList_eq_nil_iff,
    Language.mem_mul]
  refine or_congr Iff.rfl ?_
  constructor
  · intro h
    obtain ⟨_, rfl, u, hu, h⟩ := h
    obtain ⟨hne, hd⟩ := mem_digits.1 hu
    exact ⟨u, hne, hd, String.toList_inj.1 (h.symm.trans (htext u).symm)⟩
  · intro h
    obtain ⟨u, hne, hd, rfl⟩ := h
    exact ⟨[':'], rfl, u, mem_digits.2 ⟨hne, hd⟩, (htext u).symm⟩

theorem mem_rests {u : List Char} {slash : Bool} (hu : '\n' ∉ u) :
    u ∈ rests slash ↔ u = [] ∨ ∃ r, u = (if slash then ['/'] else []) ++ r := by
  have hrest : ∀ r, r ∈ (charsOf .notNewline)∗ ↔ '\n' ∉ r := by
    intro r
    simp only [mem_kstar_charsOf, CharTest.passes, ne_eq, decide_eq_true_eq]
    exact ⟨fun h hm => h _ hm rfl, fun h c hc hd => h (hd ▸ hc)⟩
  simp only [rests, Language.mem_add, Language.mem_one, Language.mem_mul, hrest]
  refine or_congr Iff.rfl ?_
  constructor
  · intro h
    obtain ⟨_, rfl, r, -, h⟩ := h
    exact ⟨r, h.symm⟩
  · intro h
    obtain ⟨r, rfl⟩ := h
    exact ⟨_, rfl, r, fun h => hu (List.mem_append_right _ h), rfl⟩

theorem mem_paths {path s : String} (hs : '\n' ∉ s.toList) :
    s.toList ∈ paths path ↔ s.toList = pathText path ∨
      ∃ r, s.toList = pathText path ++ (if needsSlash path then ['/'] else []) ++ r := by
  simp only [paths, Language.mem_mul]
  constructor
  · intro h
    obtain ⟨_, rfl, v, hv, h⟩ := h
    have hv' := (mem_rests fun hm => hs (h ▸ List.mem_append_right _ hm)).1 hv
    rcases hv' with rfl | ⟨r, rfl⟩
    · exact .inl (by simpa using h.symm)
    · exact .inr ⟨r, by rw [← h, List.append_assoc]⟩
  · intro h
    rcases h with h | ⟨r, h⟩
    · exact ⟨_, rfl, [], .inl rfl, by simpa using h.symm⟩
    · rw [List.append_assoc] at h
      refine ⟨_, rfl, _, (mem_rests fun hm => hs ?_).2 (.inr ⟨r, rfl⟩), h.symm⟩
      exact h ▸ List.mem_append_right _ hm

theorem servesPath_iff {path s : String} :
    ServesPath path s ↔ s.toList = pathText path ∨
      ∃ r, s.toList = pathText path ++ (if needsSlash path then ['/'] else []) ++ r := by
  have hprefix : ∀ t : String, (∃ rest, s = t ++ rest) ↔ ∃ r, s.toList = t.toList ++ r := by
    intro t
    constructor
    · intro h
      obtain ⟨rest, rfl⟩ := h
      exact ⟨rest.toList, String.toList_append⟩
    · intro h
      obtain ⟨r, h⟩ := h
      exact ⟨String.ofList r, String.toList_inj.1 (by simp [h])⟩
  have hslash : "/".toList = ['/'] := rfl
  unfold ServesPath pathText needsSlash
  by_cases hr : OnlySlashes path
  · simp [hr, isRoot_iff.2 hr, hprefix, hslash]
  · have hr' : isRoot path = false := by simpa using mt isRoot_iff.1 hr
    by_cases he : EndsInSlash path
    · simp only [hr, hr', he, endsWithSlash_iff.2 he, hprefix, Bool.false_eq_true, if_false,
        Bool.false_or, Bool.not_true, List.append_nil, false_implies, true_and, not_true_eq_false,
        not_false_eq_true, true_implies, and_true]
      exact ⟨.inr, fun h => h.elim (fun h => ⟨[], by simp [h]⟩) id⟩
    · have he' : endsWithSlash path = false := by simpa using mt endsWithSlash_iff.1 he
      simp [hr, hr', he, he', hprefix, hslash, String.toList_inj]

theorem mem_route_language {host path s : String} {wildcard : Bool} (hs : '\n' ∉ s.toList) :
    s.toList ∈ hosts host wildcard * (ports * paths path) ↔ Serves host path wildcard s := by
  simp only [Language.mem_mul, Serves, ← mem_hosts, ← mem_ports, servesPath_iff]
  constructor
  · intro h
    obtain ⟨h, hh, _, ⟨p, hp, t, ht, rfl⟩, hs'⟩ := h
    have hnt : '\n' ∉ (String.ofList t).toList := by
      rw [String.toList_ofList]
      exact fun hm => hs (hs' ▸ List.mem_append_right _ (List.mem_append_right _ hm))
    refine ⟨String.ofList h, String.ofList p, String.ofList t, String.toList_inj.1 ?_, ?_, ?_, ?_⟩
    · simp [← hs']
    · simpa using hh
    · simpa using hp
    · exact (mem_paths hnt).1 (by simpa using ht)
  · intro h
    obtain ⟨h, p, t, rfl, hh, hp, ht⟩ := h
    have hnt : '\n' ∉ t.toList := fun hm => hs (by simp [hm])
    exact ⟨_, hh, _, ⟨_, hp, _, (mem_paths hnt).2 ht, rfl⟩, by simp⟩

/-- A text of one line holds a match from its start to its end if it is in the language. -/
theorem matchesIn_line_iff {text s : String} {groups : Nat} {ns : List Node} {L : Language Char}
    (h : Denotes (seqOf ns) L) (hs : '\n' ∉ s.toList) :
    Pattern.matchesIn ⟨text, groups, between .textStart .lastLineEnd ns⟩ s = true ↔
      s.toList ∈ L := by
  rw [Pattern.matchesIn, Pattern.search, Option.isSome_map, search_line_iff h, or_iff_left]
  intro h
  obtain ⟨u, -, h⟩ := h
  exact hs (h ▸ by simp)

/-- The search of a route pattern in a text of one line. -/
theorem matchesIn_route_iff [Text.CharacterNames] {host path s : String} {wildcard : Bool}
    {pat : Pattern}
    (hpat : Pattern.compile (route host path wildcard) = .ok pat) (hs : '\n' ∉ s.toList) :
    pat.matchesIn s = true ↔ Serves host path wildcard s := by
  rw [compile_route, Except.ok.injEq] at hpat
  rw [← hpat, matchesIn_line_iff (denotes_route host path wildcard) hs, mem_route_language hs]

/-- **The language of a route pattern.** Every route pattern is a pattern, and
in a text of one line it finds exactly what the route serves. -/
theorem route_matches_iff_serves [Text.CharacterNames] (host path : String) (wildcard : Bool) :
    ∃ pat, Pattern.compile (route host path wildcard) = .ok pat ∧
      ∀ s : String, '\n' ∉ s.toList →
        (pat.matchesIn s = true ↔ Serves host path wildcard s) :=
  ⟨_, compile_route host path wildcard, fun _ hs =>
    matchesIn_route_iff (compile_route host path wildcard) hs⟩

theorem route_matches_neighbour :
    ∃ pat, Pattern.compile (route "a.b" "/x" true) = .ok pat ∧
      '\n' ∉ "c.b:80/x/y".toList ∧ pat.matchesIn "c.b:80/x/y" = true := by
  obtain ⟨pat, hpat, h⟩ := route_matches_iff_serves "a.b" "/x" true
  have hhost : ServesHost "a.b" true "c.b" :=
    .inr ⟨rfl, "b", by decide, ⟨"a", by decide, by decide⟩, ⟨"c", by decide, by decide⟩⟩
  have hport : IsPort ":80" := .inr ⟨['8', '0'], by decide, by simp, by decide⟩
  have hpath : ServesPath "/x" "/x/y" := servesPath_iff.2 (.inr ⟨['y'], by decide⟩)
  have hline : '\n' ∉ "c.b:80/x/y".toList := by decide
  exact ⟨pat, hpat, hline,
    (h _ hline).2 ⟨"c.b", ":80", "/x/y", by decide, hhost, hport, hpath⟩⟩

end ProxyMaps.HostPattern
