/-
Reading a text with a closing bracket and an end mark behind it, as in the
pattern for the whole of a text.

Here are the readers that do not see what is added: they give what they gave,
and leave as much more (`takeUpTo_closing` and its kind). Classes are read so
too: a class that is not closed is none, whatever of the closing it takes for
its members, since there is no bracket in it that closes a class.
-/
import ProxyMaps.Proofs.Regex.Reading

namespace ProxyMaps.Regex.Lexeme

/-- What stands behind a pattern that has to match the whole of a text. -/
def closing : List Char := [')', '\\', 'Z']

/-- The result of a reader that leaves as much more as was added. -/
def extend {α : Type} (p : α × List Char) : α × List Char := (p.1, p.2 ++ closing)

/-! ## Readers that see no more -/

theorem takeUpTo_closing {p : Char → Bool} (hp : p ')' = false) (n : Nat) (s : List Char) :
    takeUpTo p n (s ++ closing) = extend (takeUpTo p n s) := by
  induction n generalizing s with
  | zero => rfl
  | succ n ih =>
    cases s with
    | nil => simp [takeUpTo, closing, hp, extend]
    | cons c s =>
      simp only [List.cons_append, takeUpTo, ih]
      split <;> rfl

theorem takeWhile_closing {p : Char → Bool} (hp : p ')' = false) (s : List Char) :
    (s ++ closing).takeWhile p = s.takeWhile p := by
  induction s with
  | nil => simp [closing, hp]
  | cons c s ih => simp only [List.cons_append, List.takeWhile_cons, ih]

theorem dropWhile_closing {p : Char → Bool} (hp : p ')' = false) (s : List Char) :
    (s ++ closing).dropWhile p = s.dropWhile p ++ closing := by
  induction s with
  | nil => simp [closing, hp]
  | cons c s ih =>
    simp only [List.cons_append, List.dropWhile_cons, ih]
    split <;> rfl

/-- What a reader gives, taken further without reading on. -/
def refine? {α β : Type} (f : α → Option β) (o : Option (α × List Char)) :
    Option (β × List Char) :=
  o.bind fun q => (f q.1).map fun b => (b, q.2)

theorem refine?_extend {α β : Type} (f : α → Option β) (o : Option (α × List Char)) :
    refine? f (o.map extend) = (refine? f o).map extend := by
  rcases o with _ | ⟨a, r⟩
  · rfl
  · cases h : f a <;> simp [refine?, extend, h]

theorem name?_eq (ending : Char) (s : List Char) : name? ending s =
    refine? (fun name => if name.isEmpty then none else some name) (Text.cutFirst? ending s) := by
  simp only [name?, refine?]
  rcases Text.cutFirst? ending s with _ | ⟨name, rest⟩
  · rfl
  · cases name <;> simp

theorem identifier?_eq (ending : Char) (s : List Char) : identifier? ending s =
    refine? (fun name => if Text.isIdentifier name then some name else none) (name? ending s) := by
  simp only [identifier?, refine?]
  rcases name? ending s with _ | ⟨name, rest⟩
  · rfl
  · by_cases h : Text.isIdentifier name = true <;> simp [h, Option.filter]

theorem cutFirst?_closing {d : Char} (hd : d ∉ closing) (s : List Char) :
    Text.cutFirst? d (s ++ closing) = (Text.cutFirst? d s).map extend := by
  induction s with
  | nil =>
    have hclosing : ')' ≠ d ∧ '\\' ≠ d ∧ 'Z' ≠ d := by
      simpa [closing, not_or, ne_comm] using hd
    simp [closing, Text.cutFirst?, hclosing]
  | cons c s ih =>
    simp only [List.cons_append, Text.cutFirst?, ih]
    split
    · rfl
    · cases Text.cutFirst? d s <;> rfl

theorem name?_closing {d : Char} (hd : d ∉ closing) (s : List Char) :
    name? d (s ++ closing) = (name? d s).map extend := by
  simp only [name?_eq, cutFirst?_closing hd, refine?_extend]

theorem identifier?_closing (s : List Char) :
    identifier? '>' (s ++ closing) = (identifier? '>' s).map extend := by
  simp only [identifier?_eq, name?_closing (d := '>') (by decide), refine?_extend]

theorem hexEscape?_closing (n : Nat) (s : List Char) :
    hexEscape? n (s ++ closing) = (hexEscape? n s).map extend := by
  simp only [hexEscape?, takeUpTo_closing (p := Text.isHexDigit) rfl, extend]
  split <;> rfl

theorem loopMode_closing (s : List Char) : loopMode (s ++ closing) = extend (loopMode s) := by
  cases s with
  | nil => rfl
  | cons c s =>
    simp only [List.cons_append, loopMode]
    split <;> simp_all [extend]

theorem loopOf_closing (min : Nat) (max : Option Nat) (s : List Char) :
    loopOf min max (s ++ closing) = extend (loopOf min max s) := by
  rw [loopOf, loopMode_closing]
  rfl

theorem bounds?_closing (s : List Char) :
    bounds? (s ++ closing) =
      (bounds? s).map fun b => (b.1, b.2.1, b.2.2 ++ closing) := by
  have hlow := takeWhile_closing (p := Char.isDigit) rfl
  have hrest := dropWhile_closing (p := Char.isDigit) rfl
  simp only [bounds?, hlow, hrest]
  rcases s.dropWhile Char.isDigit with _ | ⟨c, rest⟩
  · rfl
  by_cases hbrace : c = '\x7d'
  · subst hbrace
    simp only [List.cons_append]
    split <;> rfl
  by_cases hcomma : c = ','
  · subst hcomma
    simp only [List.cons_append, hlow, hrest]
    rcases rest.dropWhile Char.isDigit with _ | ⟨d, rest'⟩
    · rfl
    · by_cases hd : d = '\x7d'
      · subst hd
        rfl
      · simp [hd]
  · simp [hbrace, hcomma]

theorem flags?_closing (s : List Char) : flags? (s ++ closing) = (flags? s).map extend := by
  have hletter : (flag? ')').isSome = false := rfl
  simp only [flags?, takeWhile_closing (p := fun c => (flag? c).isSome) hletter,
    dropWhile_closing (p := fun c => (flag? c).isSome) hletter]
  split <;> rfl

/-- Whether a class is the contrary of its members, and the text of these. -/
def classBody : List Char → Bool × List Char
  | '^' :: rest => (true, rest)
  | s => (false, s)

theorem classBody_closing (s : List Char) :
    classBody (s ++ closing) = extend (classBody s) := by
  rcases s with _ | ⟨c, s⟩
  · rfl
  by_cases hc : c = '^'
  · subst hc
    rfl
  · simp [classBody, extend, hc]

variable [Text.CharacterNames]

theorem namedEscape?_eq (s : List Char) : namedEscape? ('\x7b' :: s) =
    refine? (fun name => if name.contains '\\' then none
      else (Text.CharacterNames.find? name).map Char.toNat) (name? '\x7d' s) := by
  simp only [namedEscape?, refine?]
  rcases name? '\x7d' s with _ | ⟨name, rest⟩
  · rfl
  · simp only [Option.bind_eq_bind, Option.bind_some]
    split
    · rfl
    · cases Text.CharacterNames.find? name <;> rfl

theorem namedEscape?_closing (s : List Char) :
    namedEscape? (s ++ closing) = (namedEscape? s).map extend := by
  rcases s with _ | ⟨c, s⟩
  · rfl
  by_cases hc : c = '\x7b'
  · subst hc
    rw [List.cons_append, namedEscape?_eq, namedEscape?_eq, name?_closing (by decide),
      refine?_extend]
  · simp [namedEscape?, hc]

theorem codeEscape?_closing (c : Char) (s : List Char) :
    codeEscape? c (s ++ closing) = (codeEscape? c s).map extend := by
  simp only [codeEscape?, hexEscape?_closing, namedEscape?_closing]
  repeat' split
  all_goals rfl

theorem classEscape?_closing (c : Char) (s : List Char) :
    classEscape? c (s ++ closing) = (classEscape? c s).map extend := by
  simp only [classEscape?, takeUpTo_closing (p := isOctal) rfl, codeEscape?_closing, extend,
    Option.map_map]
  repeat' split
  all_goals first | rfl | (simp only [Option.map_map]; rfl)

/-! ## Classes

A class needs its closing bracket, and there is none in what is added. -/

theorem classItems?_eq_none {n : Nat} {b : Bool} {s : List Char} (hs : ']' ∉ s) :
    classItems? n b s = none := by
  induction n generalizing b s with
  | zero => rfl
  | succ n ih =>
    rw [classItems?]
    case x_4 =>
      rintro rest - rfl
      exact hs List.mem_cons_self
    cases hi : classItem? s with
    | none => rfl
    | some p =>
      obtain ⟨item, rest⟩ := p
      have hrest : ']' ∉ rest := fun h => hs ((classItem?_suffix hi).subset h)
      simp only [Option.bind_eq_bind, Option.bind_some]
      split
      · simp at hrest
      next rest' _ =>
        cases hj : classItem? rest' with
        | none => rfl
        | some q =>
          have hq : ']' ∉ q.2 := fun h =>
            hrest (List.mem_cons_of_mem _ ((classItem?_suffix hj).subset h))
          simp [ih hq]
      · simp [ih hrest]

theorem classItem?_closing (s : List Char) :
    classItem? (s ++ closing) = (classItem? s).map extend ∨
      classItem? s = none ∧ ∃ item, classItem? (s ++ closing) = some (item, ['\\', 'Z']) := by
  cases s with
  | nil => exact .inr ⟨rfl, _, rfl⟩
  | cons c s =>
    by_cases hc : c = '\\'
    · subst hc
      cases s with
      | nil => exact .inr ⟨rfl, _, rfl⟩
      | cons d s => exact .inl (classEscape?_closing d s)
    · exact .inl (by simp [classItem?, hc, extend])

/-- What follows a member of a class: the end of a range, or more members. -/
def classRest? (n : Nat) (item : ClassItem) : List Char → Option (List ClassItem × List Char)
  | '-' :: ']' :: rest => some ([item, .code '-'.toNat], rest)
  | '-' :: rest =>
    (classItem? rest).bind fun q => (range? item q.1).bind fun r =>
      (classItems? n false q.2).map fun p => (r :: p.1, p.2)
  | rest => (classItems? n false rest).map fun p => (item :: p.1, p.2)

theorem classItems?_succ {n : Nat} {b : Bool} {s : List Char}
    (h : b = false → s.head? ≠ some ']') :
    classItems? (n + 1) b s = (classItem? s).bind fun q => classRest? n q.1 q.2 := by
  rw [classItems?]
  case x_4 =>
    rintro rest rfl rfl
    exact h rfl rfl
  rcases classItem? s with _ | ⟨item, rest⟩
  · rfl
  · simp only [Option.bind_eq_bind, Option.bind_some]
    unfold classRest?
    split
    · rfl
    · simp only [Option.map_eq_bind]
      rfl
    · simp only [Option.map_eq_bind]
      rfl

theorem classRest?_closing {n : Nat}
    (ih : ∀ s, classItems? n false (s ++ closing) = (classItems? n false s).map extend)
    (item : ClassItem) (s : List Char) :
    classRest? n item (s ++ closing) = (classRest? n item s).map extend := by
  have hmore : ∀ i r, (classItems? n false (r ++ closing)).map (fun p => (i :: p.1, p.2)) =
      ((classItems? n false r).map fun p => (i :: p.1, p.2)).map extend := by
    intro i r
    rw [ih]
    cases classItems? n false r <;> rfl
  rcases s with _ | ⟨c, s⟩
  · exact hmore item []
  by_cases hc : c = '-'
  · subst hc
    have hend : classItems? n false ['\\', 'Z'] = none := classItems?_eq_none (by decide)
    rcases s with _ | ⟨d, s⟩
    · simp [classRest?, closing, classItem?, hend]
    by_cases hd : d = ']'
    · subst hd
      rfl
    have hrange : ∀ t, classRest? n item ('-' :: d :: t) =
        (classItem? (d :: t)).bind fun q => (range? item q.1).bind fun r =>
          (classItems? n false q.2).map fun p => (r :: p.1, p.2) := by
      intro t
      simp [classRest?, hd]
    rw [List.cons_append, List.cons_append, hrange, hrange, ← List.cons_append]
    rcases classItem?_closing (d :: s) with h | ⟨h, j, h'⟩
    · rw [h]
      rcases classItem? (d :: s) with _ | ⟨j, rest⟩
      · rfl
      · simp only [Option.map_some, extend, Option.bind_some]
        cases range? item j with
        | none => rfl
        | some r => exact hmore r rest
    · rw [h, h']
      simp [hend]
  · simpa [classRest?, hc] using hmore item (c :: s)

theorem classItems?_closing (n : Nat) (b : Bool) (s : List Char) :
    classItems? n b (s ++ closing) = (classItems? n b s).map extend := by
  induction n generalizing b s with
  | zero => rfl
  | succ n ih =>
    by_cases hb : b = false ∧ s.head? = some ']'
    · obtain ⟨rfl, hs⟩ := hb
      obtain ⟨rest, rfl⟩ := List.head?_eq_some_iff.1 hs
      rfl
    · have hs : b = false → s.head? ≠ some ']' := fun h h' => hb ⟨h, h'⟩
      have hs' : b = false → (s ++ closing).head? ≠ some ']' := by
        intro h
        cases s with
        | nil => decide
        | cons c s => exact hs h
      rw [classItems?_succ hs, classItems?_succ hs']
      rcases classItem?_closing s with h | ⟨h, item, h'⟩
      · rw [h]
        cases classItem? s with
        | none => rfl
        | some p => exact classRest?_closing (ih false) p.1 p.2
      · have hend : classItems? n false ['\\', 'Z'] = none := classItems?_eq_none (by decide)
        rw [h, h']
        simp [classRest?, hend]

theorem classItem?_length {s : List Char} {i : ClassItem} {r : List Char}
    (h : classItem? s = some (i, r)) : r.length < s.length := by
  have hs := (classItem?_suffix_tail h).length_le
  cases s with
  | nil => cases h
  | cons c s => exact Nat.lt_succ_of_le hs

/-- Any fuel does that is greater than the number of characters. -/
theorem classItems?_fuel {m n : Nat} {b : Bool} {s : List Char} (hm : s.length < m)
    (hn : s.length < n) : classItems? m b s = classItems? n b s := by
  induction m generalizing n b s with
  | zero => omega
  | succ m ih =>
    obtain ⟨n, rfl⟩ : ∃ n', n = n' + 1 := ⟨n - 1, by omega⟩
    by_cases hb : b = false ∧ s.head? = some ']'
    · obtain ⟨rfl, hs⟩ := hb
      obtain ⟨rest, rfl⟩ := List.head?_eq_some_iff.1 hs
      rfl
    have hs : b = false → s.head? ≠ some ']' := fun h h' => hb ⟨h, h'⟩
    rw [classItems?_succ hs, classItems?_succ hs]
    cases hi : classItem? s with
    | none => rfl
    | some p =>
      obtain ⟨item, rest⟩ := p
      have hlen := classItem?_length hi
      simp only [Option.bind_some]
      unfold classRest?
      split
      · rfl
      next rest' _ =>
        simp only [List.length_cons] at hlen
        cases hj : classItem? rest' with
        | none => rfl
        | some q =>
          have hq := classItem?_length hj
          rw [Option.bind_some, Option.bind_some, ih (n := n) (by omega) (by omega)]
      · rw [ih (n := n) (by omega) (by omega)]

theorem class?_eq (s : List Char) : class? s =
    (classItems? ((classBody s).2.length + 1) true (classBody s).2).map fun q =>
      (members (classBody s).1 q.1.eraseDups, q.2) := by
  rw [Option.map_eq_bind]
  rcases s with _ | ⟨c, s⟩
  · rfl
  by_cases hc : c = '^'
  · subst hc
    rfl
  · have hbody : classBody (c :: s) = (false, c :: s) := by simp [classBody, hc]
    have hclass : class? (c :: s) = (classItems? ((c :: s).length + 1) true (c :: s)).bind
        fun q => some (members false q.1.eraseDups, q.2) := by
      simp [class?, hc]
    rw [hclass, hbody]
    rfl

theorem class?_closing (s : List Char) : class? (s ++ closing) = (class? s).map extend := by
  rw [class?_eq, class?_eq, classBody_closing]
  obtain ⟨negated, body⟩ := classBody s
  have hfuel : classItems? ((body ++ closing).length + 1) true body =
      classItems? (body.length + 1) true body := by
    refine classItems?_fuel ?_ (Nat.lt_succ_self _)
    rw [List.length_append]
    omega
  simp only [extend, classItems?_closing, hfuel]
  cases classItems? (body.length + 1) true body <;> rfl

end ProxyMaps.Regex.Lexeme
