/-
Which routes have the same pattern: those for the same hosts and the same
paths, and no others (`route_eq_iff`).

A pattern is a quoted text up to the bracket that opens the group of ports, and
again a quoted text up to the bracket that opens the group of what is below the
path. Quoted text never holds a bracket without a backslash in front of it, so
it ends where such a bracket stands, whatever was quoted
(`flatMap_quoteChar_inj`).
-/
import ProxyMaps.Proofs.HostPattern.Tree

namespace ProxyMaps.HostPattern

/-! ## Where quoted text ends -/

/-- Quoted text starts with a backslash or with a character without a meaning. -/
theorem quoteChar_ne_cons {c d : Char} (hd : d ∈ special) (hd' : d ≠ '\\') (s t : List Char) :
    quoteChar c ++ s ≠ d :: t := by
  intro h
  by_cases hc : c ∈ special
  · have hq : quoteChar c = ['\\', c] := by simp [quoteChar, hc]
    rw [hq, List.cons_append, List.cons.injEq] at h
    exact hd' h.1.symm
  · have hq : quoteChar c = [c] := by simp [quoteChar, hc]
    rw [hq, List.cons_append, List.cons.injEq] at h
    exact hc (h.1 ▸ hd)

theorem quoteChar_append_inj {c d : Char} {s t : List Char}
    (h : quoteChar c ++ s = quoteChar d ++ t) : c = d ∧ s = t := by
  have hback : '\\' ∈ special := by decide
  by_cases hc : c ∈ special <;> by_cases hd : d ∈ special
  · simpa [quoteChar, hc, hd] using h
  · have hne : '\\' ≠ d := fun h => hd (h ▸ hback)
    simp [quoteChar, hc, hd, hne] at h
  · have hne : c ≠ '\\' := fun h => hc (h ▸ hback)
    simp [quoteChar, hc, hd, hne] at h
  · simpa [quoteChar, hc, hd] using h

/-- Two quoted texts in front of brackets are the same text. -/
theorem flatMap_quoteChar_inj {s t u v : List Char}
    (h : s.flatMap quoteChar ++ '(' :: u = t.flatMap quoteChar ++ '(' :: v) : s = t ∧ u = v := by
  have hbracket : '(' ∈ special := by decide
  induction s generalizing t with
  | nil =>
    cases t with
    | nil => exact ⟨rfl, (List.cons.inj h).2⟩
    | cons d t =>
      rw [List.flatMap_cons, List.append_assoc] at h
      exact absurd h.symm (quoteChar_ne_cons hbracket (by decide) _ _)
  | cons c s ih =>
    rw [List.flatMap_cons, List.append_assoc] at h
    cases t with
    | nil => exact absurd h (quoteChar_ne_cons hbracket (by decide) _ _)
    | cons d t =>
      rw [List.flatMap_cons, List.append_assoc] at h
      obtain ⟨rfl, hrest⟩ := quoteChar_append_inj h
      obtain ⟨rfl, rfl⟩ := ih hrest
      exact ⟨rfl, rfl⟩

/-! ## Hosts -/

/-- The hosts that a route pattern is for. -/
inductive HostScope where
  /-- Every host one label below a domain. -/
  | domain (name : String)
  /-- One host. -/
  | host (name : String)
  deriving DecidableEq, Repr

/-- The hosts of a route: a wildcard is for what its host has behind the first dot, if anything. -/
def hostScope (host : String) (wildcard : Bool) : HostScope :=
  match wildcard, Text.cutFirst? '.' host.toList with
  | true, some (_, c :: rest) => .domain (String.ofList (c :: rest))
  | _, _ => .host host

theorem hostScope_eq_ite (host : String) (wildcard : Bool) :
    hostScope host wildcard =
      if coversDomain host wildcard = true then .domain (parentDomain host) else .host host := by
  unfold hostScope coversDomain parentDomain
  cases wildcard with
  | false => rfl
  | true =>
    cases Text.cutFirst? '.' host.toList with
    | none => rfl
    | some pieces =>
      obtain ⟨label, domain⟩ := pieces
      cases domain with
      | nil => rfl
      | cons c rest => simp

/-- What the part of a route pattern that matches hosts is made of. -/
def HostScope.pattern : HostScope → List Char
  | domain name => anyLabel.toList ++ ('.' :: name.toList).flatMap quoteChar
  | host name => name.toList.flatMap quoteChar

theorem toList_hostPart_eq_pattern (host : String) (wildcard : Bool) :
    (hostPart host wildcard).toList = (hostScope host wildcard).pattern := by
  rw [toList_hostPart, hostScope_eq_ite]
  by_cases h : coversDomain host wildcard = true
  · rw [if_pos h, if_pos h]
    rfl
  · rw [if_neg h, if_neg h]
    rfl

/-- No quoted text imitates the pattern of any label. -/
theorem pattern_host_ne_domain (name domain : String) (s t : List Char) :
    (HostScope.host name).pattern ++ '(' :: s ≠ (HostScope.domain domain).pattern ++ t := by
  intro h
  have hlabel : anyLabel.toList = '[' :: ['^', '\\', '.', ']', '*'] := rfl
  simp only [HostScope.pattern, hlabel, List.cons_append] at h
  cases hname : name.toList with
  | nil =>
    rw [hname] at h
    exact absurd (List.cons.inj h).1 (by decide)
  | cons c cs =>
    rw [hname, List.flatMap_cons, List.append_assoc] at h
    exact quoteChar_ne_cons (by decide) (by decide) _ _ h

theorem HostScope.pattern_inj {a b : HostScope} {s t : List Char}
    (h : a.pattern ++ '(' :: s = b.pattern ++ '(' :: t) : a = b ∧ s = t := by
  cases a with
  | domain d =>
    cases b with
    | domain e =>
      simp only [HostScope.pattern, List.append_assoc, List.append_cancel_left_eq] at h
      obtain ⟨hname, rfl⟩ := flatMap_quoteChar_inj h
      exact ⟨congrArg _ (String.toList_inj.1 (List.cons.inj hname).2), rfl⟩
    | host e => exact absurd h.symm (pattern_host_ne_domain _ _ _ _)
  | host d =>
    cases b with
    | domain e => exact absurd h (pattern_host_ne_domain _ _ _ _)
    | host e =>
      obtain ⟨hname, rfl⟩ := flatMap_quoteChar_inj h
      exact ⟨congrArg _ (String.toList_inj.1 hname), rfl⟩

/-! ## Paths -/

/-- The path that a route pattern is for; nothing but slashes is as good as no path. -/
def pathScope (path : String) : String := if path.toList.all (· = '/') then "" else path

theorem pathScope_eq_ite (path : String) :
    pathScope path = if isRoot path = true then "" else path := rfl

theorem pathText_eq_toList (path : String) : pathText path = (pathScope path).toList := by
  rw [pathText, pathScope_eq_ite]
  split <;> rfl

theorem pathPart_pathScope (path : String) : pathPart (pathScope path) = pathPart path := by
  have hempty : isRoot "" = true := rfl
  rw [pathScope_eq_ite]
  split
  next h => rw [pathPart, if_pos hempty, pathPart, if_pos h]
  next h => rfl

/-! ## Whole patterns -/

/-- **Patterns of different routes.** Two route patterns are the same text
exactly when they are for the same hosts and for the same path. -/
theorem route_eq_iff (host host' path path' : String) (wildcard wildcard' : Bool) :
    route host path wildcard = route host' path' wildcard' ↔
      hostScope host wildcard = hostScope host' wildcard' ∧ pathScope path = pathScope path' := by
  constructor
  · intro h
    have hport : "(:[0-9]+)?".toList = '(' :: ":[0-9]+)?".toList := rfl
    have hbelow : ∀ b : Bool, (if b then "(/.*)?" else "(.*)?").toList =
        '(' :: (if b then "/.*)?" else ".*)?").toList := by
      intro b
      cases b <;> rfl
    have hchars := congrArg String.toList h
    simp only [toList_route, hport, hbelow, toList_hostPart_eq_pattern, pathText_eq_toList,
      List.cons_append, List.cons.injEq, true_and] at hchars
    obtain ⟨hhost, hrest⟩ := HostScope.pattern_inj hchars
    obtain ⟨hpath, -⟩ := flatMap_quoteChar_inj (List.append_cancel_left hrest)
    exact ⟨hhost, String.toList_inj.1 hpath⟩
  · intro h
    obtain ⟨hhost, hpath⟩ := h
    have hhosts : hostPart host wildcard = hostPart host' wildcard' := by
      rw [← String.toList_inj, toList_hostPart_eq_pattern, toList_hostPart_eq_pattern, hhost]
    have hpaths : pathPart path = pathPart path' := by
      rw [← pathPart_pathScope path, hpath, pathPart_pathScope]
    rw [route, route, hhosts, hpaths]

example : route "a.b.c" "//" true ≠ route "[^\\.]*\\.b.c" "" false := by decide

end ProxyMaps.HostPattern
