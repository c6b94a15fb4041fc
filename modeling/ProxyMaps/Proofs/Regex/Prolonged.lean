/-
Readers that run into the end of the text.

Where they do, the text alone is no pattern, or ends in a comment; with the
closing behind it the reader takes some of that instead, and then no closing
bracket is left for the group that is open (`Prolonged.broken`). What one
reading of a lexeme comes to is `next_closing`.
-/
import ProxyMaps.Proofs.Regex.Closing

namespace ProxyMaps.Regex.Lexeme

/-- What is left of the closing where some of it has been taken. -/
def remains : List (List Char) := [[], ['\\', 'Z'], ['\\', ')', '\\', 'Z']]

/-- How the result of reading a lexeme changes with the closing. -/
inductive Prolonged : Option Lexeme × List Char → Option Lexeme × List Char → Prop where
  /-- The reader sees no more. -/
  | alike (p : Option Lexeme × List Char) : Prolonged p (extend p)
  /-- There is a fault that has nothing to do with the end. -/
  | fault (f : Fault) (r r' : List Char) : Prolonged (some (bad f), r) (some (bad f), r')
  /-- A comment of a verbose part goes on to the end. -/
  | comment {r : List Char} (h : r = [] ∨ r = ['\\']) : Prolonged (none, r) (none, [])
  /-- The text breaks off, and some of the closing stands for what is missing. -/
  | broken {o : Option Lexeme} {r t : List Char} (hclose : o ≠ some close) (ht : t ∈ remains) :
      Prolonged (some (bad .malformed), r) (o, t)

/-- The result of a reader that always reads a lexeme. -/
def read (p : Lexeme × List Char) : Option Lexeme × List Char := (some p.1, p.2)

theorem Prolonged.of_eq {p q : Option Lexeme × List Char} (h : q = extend p) : Prolonged p q :=
  h ▸ .alike p

/-! ## Readers up to a bracket or a line end -/

/-- A partial reader sees no more with the closing, or it takes the bracket that it missed. -/
def Gains {α : Type} (o o' : Option (α × List Char)) : Prop :=
  o' = o.map extend ∨ o = none ∧ ∃ a, o' = some (a, ['\\', 'Z'])

theorem Gains.refine? {α β : Type} {o o' : Option (α × List Char)} (h : Gains o o')
    (f : α → Option β) : Gains (refine? f o) (refine? f o') := by
  rcases h with rfl | ⟨rfl, a, rfl⟩
  · exact .inl (refine?_extend f o)
  · cases hf : f a with
    | none => exact .inl (by simp [Lexeme.refine?, hf])
    | some b => exact .inr ⟨rfl, b, by simp [Lexeme.refine?, hf]⟩

theorem cutFirst?_gains (s : List Char) :
    Gains (Text.cutFirst? ')' s) (Text.cutFirst? ')' (s ++ closing)) := by
  induction s with
  | nil => exact .inr ⟨rfl, _, rfl⟩
  | cons c s ih =>
    simp only [List.cons_append, Text.cutFirst?]
    split
    · exact .inl rfl
    · rcases ih with h | ⟨h, a, h'⟩
      · rw [h]
        left
        cases Text.cutFirst? ')' s <;> rfl
      · exact .inr ⟨by simp [h], _, by rw [h']; rfl⟩

theorem name?_gains (s : List Char) : Gains (name? ')' s) (name? ')' (s ++ closing)) := by
  rw [name?_eq, name?_eq]
  exact (cutFirst?_gains s).refine? _

theorem identifier?_gains (s : List Char) :
    Gains (identifier? ')' s) (identifier? ')' (s ++ closing)) := by
  rw [identifier?_eq, identifier?_eq]
  exact (name?_gains s).refine? _

/-- The group that the text of a condition names. -/
def conditionRef? (text : List Char) : Option GroupRef :=
  if text.contains '\\' then none
  else if Text.isIdentifier text then some (.name text)
  else
    match Decimal.Integer.read .decimal text with
    | .ok n => if 0 < n && n < maxGroups then some (.number n.toNat) else none
    | .error _ => none

theorem condition?_eq (s : List Char) :
    condition? s = Lexeme.refine? conditionRef? (name? ')' s) := by
  simp only [condition?, Lexeme.refine?]
  rcases name? ')' s with _ | ⟨text, rest⟩
  · rfl
  · simp only [Option.bind_eq_bind, Option.bind_some, conditionRef?]
    by_cases hc : text.contains '\\' = true
    · simp only [hc, if_true, Option.map_none]
    by_cases hi : Text.isIdentifier text = true
    · simp only [hc, hi, if_true]
      rfl
    · simp only [hc, hi, if_false, Bool.false_eq_true]
      cases Decimal.Integer.read .decimal text with
      | error _ => rfl
      | ok n =>
        dsimp only
        split <;> rfl

theorem condition?_gains (s : List Char) :
    Gains (condition? s) (condition? (s ++ closing)) := by
  rw [condition?_eq, condition?_eq]
  exact (name?_gains s).refine? _

theorem skipComment?_gains (s : List Char) :
    skipComment? (s ++ closing) = (skipComment? s).map (· ++ closing) ∨
      skipComment? s = none ∧ skipComment? (s ++ closing) = some ['\\', 'Z'] := by
  fun_induction skipComment? s with
  | case1 rest => exact .inl rfl
  | case2 c rest ih => exact ih
  | case3 c rest h1 h2 ih =>
    by_cases hc : c = '\\'
    · subst hc
      cases rest with
      | nil => exact .inl rfl
      | cons d rest => exact absurd rfl (h2 d rest rfl)
    · have hskip : skipComment? (c :: rest ++ closing) = skipComment? (rest ++ closing) := by
        simp [skipComment?, hc]
      rw [hskip]
      exact ih
  | case4 => exact .inr ⟨rfl, rfl⟩

theorem skipLine_closing (s : List Char) :
    skipLine (s ++ closing) = skipLine s ++ closing ∨
      (skipLine s = [] ∨ skipLine s = ['\\']) ∧ skipLine (s ++ closing) = [] := by
  fun_induction skipLine s with
  | case1 rest => exact .inl rfl
  | case2 c rest ih => exact ih
  | case3 => exact .inr ⟨.inr rfl, rfl⟩
  | case4 c rest h1 h2 h3 ih =>
    by_cases hc : c = '\\'
    · subst hc
      cases rest with
      | nil => exact absurd rfl (h3 rfl)
      | cons d rest => exact absurd rfl (h2 d rest rfl)
    · have hskip : skipLine (c :: rest ++ closing) = skipLine (rest ++ closing) := by
        simp [skipLine, hc]
      rw [hskip]
      exact ih
  | case5 => exact .inr ⟨.inl rfl, rfl⟩

/-! ## Escapes by digits and repetitions -/

theorem digitEscape_closing (d : Char) (s : List Char) :
    Prolonged (read (digitEscape d s)) (read (digitEscape d (s ++ closing))) := by
  rcases s with _ | ⟨e, s⟩
  · exact .alike _
  by_cases he : e.isDigit = true
  · rcases s with _ | ⟨f, s⟩
    · have hf : isOctal ')' = false := rfl
      exact .of_eq (by simp [digitEscape, closing, he, hf, read, extend])
    · simp only [digitEscape, List.cons_append, he, if_true]
      by_cases ho : (isOctal d && isOctal e && isOctal f) = true
      · simp only [ho, if_true]
        split
        · exact .alike _
        · exact .fault _ _ _
      · simp only [ho]
        exact .alike (some _, f :: s)
  · simp only [digitEscape, List.cons_append, he]
    exact .alike (some _, e :: s)

theorem brace_closing (s : List Char) :
    Prolonged (read (brace s)) (read (brace (s ++ closing))) := by
  simp only [brace, bounds?_closing]
  rcases bounds? s with _ | ⟨low, high, rest⟩
  · exact .alike (some _, s)
  have hne : rest ++ closing ≠ ['\\'] := by
    intro h
    have := congrArg List.length h
    simp [closing] at this
  simp only [Option.map_some, hne, if_false]
  by_cases hr : rest = ['\\']
  · subst hr
    rcases loopBounds low high with f | ⟨min, max⟩
    · exact .broken (o := some (bad f)) (t := []) (by simp) (by decide)
    · exact .broken (o := some (loop min max .greedy)) (t := ['\\', ')', '\\', 'Z'])
        (by simp) (by decide)
  · simp only [hr, if_false]
    cases loopBounds low high with
    | error f => exact .fault _ _ _
    | ok b =>
      dsimp only
      rw [loopOf_closing]
      exact .alike (some _, _)

/-! ## Groups with a question mark -/

theorem switching_closing (on off : Flags) (s : List Char) :
    Prolonged (read (switching on off s)) (read (switching on off (s ++ closing))) := by
  unfold switching
  split
  · exact .fault _ _ _
  · exact .alike (some _, s)

theorem turnOff_closing (on : Flags) (s : List Char) :
    Prolonged (read (turnOff on s)) (read (turnOff on (s ++ closing))) := by
  simp only [turnOff, flags?_closing]
  rcases flags? s with _ | ⟨off, _ | ⟨c, rest⟩⟩
  · exact .fault _ _ _
  · exact .fault _ _ _
  · by_cases hc : c = ':'
    · subst hc
      exact switching_closing on off rest
    · simp only [Option.map_some, extend, List.cons_append, hc, Option.some.injEq, Prod.mk.injEq,
        List.cons.injEq, false_and, and_false, false_implies, implies_true]
      exact .fault _ _ _

/-- The lexeme of switches turned on, with what follows them. -/
def switchesEnd (on : Flags) : List Char → Lexeme × List Char
  | ')' :: rest => (globalFlags on, rest)
  | ':' :: rest => switching on {} rest
  | '-' :: rest => turnOff on rest
  | _ => (bad .malformed, [])

theorem flags_eq {s : List Char} (hs : s.head? ≠ some '-') :
    flags s = (flags? s).elim (bad .malformed, []) fun p =>
      if p.1.ascii && p.1.unicode then (bad .malformed, []) else switchesEnd p.1 p.2 := by
  rw [flags]
  case x =>
    rintro rest rfl
    exact hs rfl
  cases flags? s with
  | none => rfl
  | some p =>
    dsimp only [Option.elim_some]
    split <;> rfl

theorem switchesEnd_closing (on : Flags) (s : List Char) :
    Prolonged (read (switchesEnd on s)) (read (switchesEnd on (s ++ closing))) := by
  rcases s with _ | ⟨c, s⟩
  · exact .broken (o := some (globalFlags on)) (t := ['\\', 'Z']) (by simp) (by decide)
  by_cases h₁ : c = ')'
  · subst h₁
    exact .alike (some _, s)
  by_cases h₂ : c = ':'
  · subst h₂
    exact switching_closing on {} s
  by_cases h₃ : c = '-'
  · subst h₃
    exact turnOff_closing on s
  · have hbad : ∀ t, switchesEnd on (c :: t) = (bad .malformed, []) := by
      intro t
      simp [switchesEnd, h₁, h₂, h₃]
    rw [List.cons_append, hbad, hbad]
    exact .fault _ _ _

theorem flags_closing (s : List Char) :
    Prolonged (read (flags s)) (read (flags (s ++ closing))) := by
  rcases s with _ | ⟨c, s⟩
  · exact .fault _ _ _
  by_cases hc : c = '-'
  · subst hc
    exact turnOff_closing {} s
  rw [flags_eq (by simpa using hc), flags_eq (by simpa using hc), flags?_closing]
  rcases flags? (c :: s) with _ | ⟨on, rest⟩
  · exact .fault _ _ _
  simp only [Option.map_some, extend, Option.elim_some]
  split
  · exact .fault _ _ _
  · exact switchesEnd_closing on rest

/-- Behind a start that no other extension has, switches are read. -/
theorem extension_switches {t : List Char}
    (h : ∀ u, extension (t ++ u) = read (flags (t ++ u))) (u : List Char) :
    Prolonged (extension (t ++ u)) (extension (t ++ u ++ closing)) := by
  rw [List.append_assoc, h, h, ← List.append_assoc]
  exact flags_closing (t ++ u)

theorem extension_named_closing (s : List Char) :
    Prolonged (extension ('P' :: s)) (extension ('P' :: s ++ closing)) := by
  rcases s with _ | ⟨d, s⟩
  · exact .fault _ _ _
  by_cases hdef : d = '<'
  · subst hdef
    simp only [List.cons_append, extension, identifier?_closing]
    rcases identifier? '>' s with _ | ⟨name, rest⟩
    · exact .fault _ _ _
    · exact .alike (some _, rest)
  by_cases href : d = '='
  · subst href
    simp only [List.cons_append, extension]
    rcases identifier?_gains s with h | ⟨h, name, h'⟩
    · rw [h]
      rcases identifier? ')' s with _ | ⟨name, rest⟩
      · exact .fault _ _ _
      · exact .alike (some _, rest)
    · rw [h, h']
      exact .broken (by simp) (by decide)
  · exact extension_switches (t := ['P', d]) (fun u => by simp [extension, hdef, href, read]) s

theorem extension_behind_closing (s : List Char) :
    Prolonged (extension ('<' :: s)) (extension ('<' :: s ++ closing)) := by
  rcases s with _ | ⟨d, s⟩
  · exact .fault _ _ _
  by_cases hpos : d = '='
  · subst hpos
    exact .alike (some _, s)
  by_cases hneg : d = '!'
  · subst hneg
    exact .alike (some _, s)
  · exact extension_switches (t := ['<', d]) (fun u => by simp [extension, hpos, hneg, read]) s

theorem extension_comment_closing (s : List Char) :
    Prolonged (extension ('#' :: s)) (extension ('#' :: s ++ closing)) := by
  simp only [List.cons_append, extension]
  rcases skipComment?_gains s with h | ⟨h, h'⟩
  · rw [h]
    cases skipComment? s with
    | none => exact .fault _ _ _
    | some rest => exact .alike (none, rest)
  · rw [h, h']
    exact .broken (by simp) (by decide)

theorem extension_condition_closing (s : List Char) :
    Prolonged (extension ('(' :: s)) (extension ('(' :: s ++ closing)) := by
  simp only [List.cons_append, extension]
  rcases condition?_gains s with h | ⟨h, g, h'⟩
  · rw [h]
    rcases condition? s with _ | ⟨g, rest⟩
    · exact .fault _ _ _
    · exact .alike (some _, rest)
  · rw [h, h']
    exact .broken (by simp) (by decide)

theorem extension_closing (s : List Char) :
    Prolonged (extension s) (extension (s ++ closing)) := by
  rcases s with _ | ⟨c, s⟩
  · exact .fault _ _ _
  by_cases hname : c = 'P'
  · exact hname ▸ extension_named_closing s
  by_cases hbehind : c = '<'
  · exact hbehind ▸ extension_behind_closing s
  by_cases hcomment : c = '#'
  · exact hcomment ▸ extension_comment_closing s
  by_cases hcond : c = '('
  · exact hcond ▸ extension_condition_closing s
  by_cases hopen : c = ':' ∨ c = '=' ∨ c = '!' ∨ c = '>'
  · rcases hopen with rfl | rfl | rfl | rfl <;> exact .alike (some _, s)
  · simp only [not_or] at hopen
    have hswitches : ∀ u, extension ([c] ++ u) = read (flags ([c] ++ u)) := fun u => by
      simp [extension, hname, hbehind, hcomment, hcond, hopen, read]
    exact extension_switches hswitches s

/-! ## Any lexeme -/

variable [Text.CharacterNames]

theorem escape_closing (c : Char) (s : List Char) :
    Prolonged (read (escape c s)) (read (escape c (s ++ closing))) := by
  simp only [escape, takeUpTo_closing (p := isOctal) rfl, codeEscape?_closing]
  split
  · exact .alike (some _, s)
  split
  · exact .alike (some _, s)
  split
  · exact .alike (some _, s)
  split
  · exact .alike (some _, s)
  split
  · exact .alike (some _, s)
  · exact .alike (some _, s)
  split
  · exact .alike (some _, _)
  split
  · exact digitEscape_closing c s
  · rcases codeEscape? c s with _ | ⟨n, r⟩
    · exact .fault _ _ _
    · exact .alike (some _, r)

theorem next_closing (v : Bool) (c : Char) (s : List Char) :
    Prolonged (next v c s) (next v c (s ++ closing)) := by
  unfold next
  split
  · exact .alike (none, s)
  split
  · rcases skipLine_closing s with h | ⟨h, h'⟩
    · rw [h]
      exact .alike (none, _)
    · rw [h']
      exact .comment h
  dsimp only
  split
  · rcases s with _ | ⟨e, s⟩
    · exact .broken (o := some (code _)) (t := ['\\', 'Z']) (by simp) (by decide)
    · exact escape_closing e s
  · rw [class?_closing]
    cases class? s with
    | none => exact .fault _ _ _
    | some p => exact .alike (some _, p.2)
  · exact .of_eq (by rw [loopOf_closing]; rfl)
  · exact .of_eq (by rw [loopOf_closing]; rfl)
  · exact .of_eq (by rw [loopOf_closing]; rfl)
  · exact brace_closing s
  · exact .alike (some _, s)
  · exact .alike (some _, s)
  · exact .alike (some _, s)
  · exact .alike (some _, s)
  · exact .alike (some _, s)
  · rcases s with _ | ⟨d, s⟩
    · exact .alike (some _, [])
    by_cases hd : d = '?'
    · subst hd
      exact extension_closing s
    · exact .of_eq (by simp [hd, extend])
  · exact .alike (some _, s)

end ProxyMaps.Regex.Lexeme
