/-
Reading lexemes takes characters from the front of a text: what a reader
leaves is an end of what it was given (`next_suffix`). So the number of
characters bounds the steps, the fuel of `scan` never runs out, and the
lexemes of a text satisfy plain equations (`lexemes_cons`).
-/
import ProxyMaps.Proofs.Lists
import ProxyMaps.Regex.Lexeme

namespace ProxyMaps.Regex.Lexeme

/-! ## Readers leave an end of their text -/

theorem takeUpTo_suffix (p : Char → Bool) (n : Nat) (s : List Char) : (takeUpTo p n s).2 <:+ s := by
  induction n generalizing s with
  | zero => simp [takeUpTo]
  | succ n ih =>
    cases s with
    | nil => simp [takeUpTo]
    | cons c rest =>
      simp only [takeUpTo]
      split
      · exact (ih rest).trans (List.suffix_cons c rest)
      · exact List.suffix_refl _

theorem hexEscape?_suffix {n s k r} (h : hexEscape? n s = some (k, r)) : r <:+ s := by
  simp only [hexEscape?] at h
  split at h
  · simp only [Option.some.injEq, Prod.mk.injEq] at h
    rw [← h.2]
    exact takeUpTo_suffix _ _ _
  · simp at h

theorem cutFirst?_suffix {c s a r} (h : Text.cutFirst? c s = some (a, r)) : r <:+ s := by
  induction s generalizing a r with
  | nil => simp [Text.cutFirst?] at h
  | cons d s ih =>
    simp only [Text.cutFirst?] at h
    split at h
    · simp only [Option.some.injEq, Prod.mk.injEq] at h
      rw [← h.2]
      exact List.suffix_cons _ _
    · simp only [Option.map_eq_some_iff, Prod.mk.injEq] at h
      obtain ⟨⟨a', r'⟩, hc, -, rfl⟩ := h
      exact (ih hc).trans (List.suffix_cons _ _)

theorem name?_suffix {c s a r} (h : name? c s = some (a, r)) : r <:+ s := by
  unfold name? at h
  split at h
  next hc =>
    split at h
    · simp at h
    · simp only [Option.some.injEq, Prod.mk.injEq] at h
      exact h.2 ▸ cutFirst?_suffix hc
  · simp at h

theorem digitEscape_suffix (d : Char) (s : List Char) : (digitEscape d s).2 <:+ s := by
  unfold digitEscape
  split
  · split
    · split
      · split
        · dsimp only
          split
          · exact (List.suffix_cons _ _).trans (List.suffix_cons _ _)
          · exact List.nil_suffix
        · exact List.suffix_cons _ _
      · exact List.nil_suffix
    · exact List.suffix_refl _
  · exact List.nil_suffix

theorem loopMode_suffix (s : List Char) : (loopMode s).2 <:+ s := by
  unfold loopMode
  split
  · exact List.suffix_cons _ _
  · exact List.suffix_cons _ _
  · exact List.suffix_refl _

theorem bounds?_suffix {s low high r} (h : bounds? s = some (low, high, r)) : r <:+ s := by
  simp only [bounds?] at h
  have hs := List.dropWhile_suffix (l := s) Char.isDigit
  split at h
  next rest hd =>
    split at h
    · simp at h
    · simp only [Option.some.injEq, Prod.mk.injEq] at h
      obtain ⟨-, -, rfl⟩ := h
      exact (List.suffix_cons _ _).trans (hd ▸ hs)
  next rest hd =>
    split at h
    next rest' hd' =>
      simp only [Option.some.injEq, Prod.mk.injEq] at h
      obtain ⟨-, -, rfl⟩ := h
      have hr : '\x7d' :: rest' <:+ rest := hd' ▸ List.dropWhile_suffix _
      exact ((List.suffix_cons _ _).trans hr).trans ((List.suffix_cons _ _).trans (hd ▸ hs))
    · simp at h
  · simp at h

theorem brace_suffix (s : List Char) : (brace s).2 <:+ s := by
  unfold brace
  split
  · exact List.suffix_refl _
  next low high rest hb =>
    split
    · exact List.nil_suffix
    split
    · exact (loopMode_suffix rest).trans (bounds?_suffix hb)
    · exact List.nil_suffix

theorem identifier?_suffix {c s a r} (h : identifier? c s = some (a, r)) : r <:+ s :=
  name?_suffix (Option.filter_eq_some_iff.1 h).1

theorem condition?_suffix {s g r} (h : condition? s = some (g, r)) : r <:+ s := by
  simp only [condition?, Option.bind_eq_bind, Option.bind_eq_some_iff] at h
  obtain ⟨⟨a, r'⟩, ha, h⟩ := h
  have hs := name?_suffix ha
  repeat' split at h
  all_goals simp_all

theorem skipComment?_suffix {s r} (h : skipComment? s = some r) : r <:+ s := by
  fun_induction skipComment? s with
  | case1 rest =>
    simp only [Option.some.injEq] at h
    exact h ▸ List.suffix_cons _ _
  | case2 c rest ih => exact (ih h).trans ((List.suffix_cons _ _).trans (List.suffix_cons _ _))
  | case3 c rest _ _ ih => exact (ih h).trans (List.suffix_cons _ _)
  | case4 => simp at h

theorem skipLine_suffix (s : List Char) : skipLine s <:+ s := by
  fun_induction skipLine s with
  | case1 rest => exact List.suffix_cons _ _
  | case2 c rest ih => exact ih.trans ((List.suffix_cons _ _).trans (List.suffix_cons _ _))
  | case3 => exact List.suffix_refl _
  | case4 c rest _ _ _ ih => exact ih.trans (List.suffix_cons _ _)
  | case5 => exact List.suffix_refl _

theorem flags?_suffix {s f r} (h : flags? s = some (f, r)) : r <:+ s := by
  simp only [flags?] at h
  split at h
  · simp at h
  · simp only [Option.some.injEq, Prod.mk.injEq] at h
    exact h.2 ▸ List.dropWhile_suffix _

theorem switching_suffix (on off : Flags) (s : List Char) : (switching on off s).2 <:+ s := by
  unfold switching
  split
  · exact List.nil_suffix
  · exact List.suffix_refl _

theorem turnOff_suffix (on : Flags) (s : List Char) : (turnOff on s).2 <:+ s := by
  unfold turnOff
  split
  next off rest hf =>
    exact (switching_suffix on off rest).trans ((List.suffix_cons _ _).trans (flags?_suffix hf))
  · exact List.nil_suffix

theorem flags_suffix (s : List Char) : (flags s).2 <:+ s := by
  unfold flags
  split
  · exact (turnOff_suffix _ _).trans (List.suffix_cons _ _)
  split
  next on rest hf =>
    have hs := flags?_suffix hf
    split
    · exact List.nil_suffix
    split
    · exact (List.suffix_cons _ _).trans hs
    · exact (switching_suffix _ _ _).trans ((List.suffix_cons _ _).trans hs)
    · exact (turnOff_suffix _ _).trans ((List.suffix_cons _ _).trans hs)
    · exact List.nil_suffix
  · exact List.nil_suffix

theorem extension_suffix (s : List Char) : (extension s).2 <:+ s := by
  fun_cases extension s with
  | case1 _ _ _ _ h => exact (identifier?_suffix h).cons_cons
  | case3 _ _ _ h => exact (identifier?_suffix h).cons_cons
  | case6 _ _ h => exact (skipComment?_suffix h).trans (List.suffix_cons _ _)
  | case12 _ _ _ _ h => exact (condition?_suffix h).trans (List.suffix_cons _ _)
  | case10 | case11 => exact (List.suffix_refl _).cons_cons
  | case2 | case4 | case7 | case13 => exact List.nil_suffix
  | case5 | case8 | case9 | case14 => exact List.suffix_cons _ _
  | case15 _ l r _ _ _ _ _ _ _ _ _ _ h =>
    have hs := flags_suffix s
    rwa [h] at hs

variable [Text.CharacterNames]

theorem namedEscape?_suffix {s k r} (h : namedEscape? s = some (k, r)) : r <:+ s := by
  unfold namedEscape? at h
  split at h
  next rest =>
    simp only [Option.bind_eq_bind, Option.bind_eq_some_iff] at h
    obtain ⟨⟨name, r'⟩, hname, h⟩ := h
    have hs := (name?_suffix hname).trans (List.suffix_cons '\x7b' rest)
    split at h
    · simp at h
    · simp only [Option.bind_eq_some_iff, Option.pure_def, Option.some.injEq, Prod.mk.injEq] at h
      obtain ⟨c, -, -, rfl⟩ := h
      exact hs
  · simp at h

theorem codeEscape?_suffix {c s k r} (h : codeEscape? c s = some (k, r)) : r <:+ s := by
  simp only [codeEscape?] at h
  split at h
  · exact hexEscape?_suffix h
  split at h
  · exact hexEscape?_suffix h
  split at h
  · exact hexEscape?_suffix h
  split at h
  · exact namedEscape?_suffix h
  split at h
  · simp at h
  · simp only [Option.some.injEq, Prod.mk.injEq] at h
    exact h.2 ▸ List.suffix_refl _

theorem classEscape?_suffix {c s i r} (h : classEscape? c s = some (i, r)) : r <:+ s := by
  simp only [classEscape?] at h
  split at h
  · simp only [Option.some.injEq, Prod.mk.injEq] at h
    exact h.2 ▸ List.suffix_refl _
  split at h
  · simp only [Option.some.injEq, Prod.mk.injEq] at h
    exact h.2 ▸ List.suffix_refl _
  · simp only [Option.some.injEq, Prod.mk.injEq] at h
    exact h.2 ▸ List.suffix_refl _
  · split at h
    · split at h
      · simp only [Option.some.injEq, Prod.mk.injEq] at h
        rw [← h.2]
        exact takeUpTo_suffix _ _ _
      · simp at h
    · simp only [Option.map_eq_some_iff, Prod.mk.injEq] at h
      obtain ⟨⟨k, r'⟩, hk, -, rfl⟩ := h
      exact codeEscape?_suffix hk

theorem classItem?_suffix_tail {s i r} (h : classItem? s = some (i, r)) : r <:+ s.tail := by
  fun_cases classItem? s with
  | case1 => simp [classItem?] at h
  | case2 c rest =>
    simp only [classItem?] at h
    exact (classEscape?_suffix h).trans (List.suffix_cons _ _)
  | case3 => simp [classItem?] at h
  | case4 c rest h1 h2 =>
    rw [classItem?] at h
    · simp only [Option.some.injEq, Prod.mk.injEq] at h
      exact h.2 ▸ List.suffix_refl _
    · exact h1
    · exact h2

theorem classItem?_suffix {s i r} (h : classItem? s = some (i, r)) : r <:+ s :=
  (classItem?_suffix_tail h).trans (List.tail_suffix s)

theorem classItems?_suffix {n b s is r} (h : classItems? n b s = some (is, r)) : r <:+ s := by
  induction n generalizing b s is r with
  | zero => simp [classItems?] at h
  | succ n ih =>
    by_cases hb : b = false ∧ ∃ rest, s = ']' :: rest
    · obtain ⟨rfl, rest, rfl⟩ := hb
      simp only [classItems?, Option.some.injEq, Prod.mk.injEq] at h
      rw [← h.2]
      exact List.suffix_cons _ _
    · rw [classItems?] at h
      case x_4 => exact fun rest hf hs => hb ⟨hf, rest, hs⟩
      simp only [Option.bind_eq_bind, Option.bind_eq_some_iff] at h
      obtain ⟨⟨i, r₁⟩, hi, h⟩ := h
      have hr₁ := classItem?_suffix hi
      simp only at h
      split at h
      · simp only [Option.pure_def, Option.some.injEq, Prod.mk.injEq] at h
        rw [← h.2]
        exact ((List.suffix_cons _ _).trans (List.suffix_cons _ _)).trans hr₁
      · simp only [Option.bind_eq_some_iff, Option.pure_def, Option.some.injEq, Prod.mk.injEq] at h
        obtain ⟨⟨j, r₂⟩, hj, k, -, ⟨ks, r₃⟩, hks, -, rfl⟩ := h
        exact ((ih hks).trans (classItem?_suffix hj)).trans ((List.suffix_cons _ _).trans hr₁)
      · simp only [Option.bind_eq_some_iff, Option.pure_def, Option.some.injEq, Prod.mk.injEq] at h
        obtain ⟨⟨ks, r₃⟩, hks, -, rfl⟩ := h
        exact (ih hks).trans hr₁

theorem class?_suffix {s l r} (h : class? s = some (l, r)) : r <:+ s := by
  simp only [class?, Option.bind_eq_bind, Option.bind_eq_some_iff, Option.pure_def,
    Option.some.injEq, Prod.mk.injEq] at h
  obtain ⟨⟨is, r'⟩, hi, -, rfl⟩ := h
  have hs := classItems?_suffix hi
  split at hs
  · exact hs.trans (List.suffix_cons _ _)
  · exact hs

theorem escape_suffix (c : Char) (s : List Char) : (escape c s).2 <:+ s := by
  unfold escape
  repeat' split
  all_goals try exact List.suffix_refl _
  next ds rest h =>
    have hs := takeUpTo_suffix isOctal 2 s
    rwa [h] at hs
  · exact digitEscape_suffix c s
  · exact codeEscape?_suffix ‹_›
  · exact List.nil_suffix

theorem next_suffix (v : Bool) (c : Char) (s : List Char) : (next v c s).2 <:+ s := by
  unfold next
  split
  · exact List.suffix_refl _
  split
  · exact skipLine_suffix s
  dsimp only
  split
  · split
    · exact (escape_suffix _ _).trans (List.suffix_cons _ _)
    · exact List.suffix_refl _
  · cases h : class? s with
    | none => exact List.nil_suffix
    | some p => exact class?_suffix h
  · exact loopMode_suffix s
  · exact loopMode_suffix s
  · exact loopMode_suffix s
  · exact brace_suffix s
  all_goals try exact List.suffix_refl _
  split
  · exact (extension_suffix _).trans (List.suffix_cons _ _)
  · exact List.suffix_refl _

/-! ## The fuel of a scan -/

/-- Any fuel does that is not less than the number of characters. -/
theorem scan_fuel {n m : Nat} {stack : VerboseStack} {s : List Char} (hn : s.length ≤ n)
    (hm : s.length ≤ m) : scan n stack s = scan m stack s := by
  induction n generalizing m stack s with
  | zero =>
    obtain rfl : s = [] := List.length_eq_zero_iff.1 (by omega)
    cases m <;> simp [scan]
  | succ n ih =>
    cases s with
    | nil => cases m <;> simp [scan]
    | cons c rest =>
      obtain ⟨m, rfl⟩ : ∃ m', m = m' + 1 := ⟨m - 1, by simp at hm; omega⟩
      have hlen := (next_suffix (isVerbose stack) c rest).length_le
      simp only [List.length_cons] at hn hm
      simp only [scan]
      rcases h : next (isVerbose stack) c rest with ⟨_ | l, r⟩
      · rw [h] at hlen
        exact ih (Nat.le_trans hlen (by omega)) (Nat.le_trans hlen (by omega))
      · rw [h] at hlen
        have hr : scan n (after stack l) r = scan m (after stack l) r :=
          ih (Nat.le_trans hlen (by omega)) (Nat.le_trans hlen (by omega))
        cases l <;> first | rfl | exact congrArg _ hr

/-- The lexemes of the rest of a pattern, for the groups that are open in front of it. -/
def lexemes (stack : VerboseStack) (s : List Char) : List Lexeme := scan s.length stack s

theorem ofPattern_eq (s : List Char) : ofPattern s = lexemes [false] s := rfl

@[simp] theorem lexemes_nil (stack : VerboseStack) : lexemes stack [] = [] := rfl

theorem lexemes_cons (stack : VerboseStack) (c : Char) (rest : List Char) :
    lexemes stack (c :: rest) =
      match next (isVerbose stack) c rest with
      | (none, rest) => lexemes stack rest
      | (some (bad f), _) => [bad f]
      | (some l, rest) => l :: lexemes (after stack l) rest := by
  have hlen := (next_suffix (isVerbose stack) c rest).length_le
  simp only [lexemes, List.length_cons, scan]
  rcases h : next (isVerbose stack) c rest with ⟨_ | l, r⟩
  · rw [h] at hlen
    exact scan_fuel hlen (Nat.le_refl _)
  · rw [h] at hlen
    have hr : scan rest.length (after stack l) r = scan r.length (after stack l) r :=
      scan_fuel hlen (Nat.le_refl _)
    cases l <;> first | rfl | exact congrArg _ hr

section

variable {stack : VerboseStack} {c : Char} {s r : List Char}

theorem lexemes_skip (h : next (isVerbose stack) c s = (none, r)) :
    lexemes stack (c :: s) = lexemes stack r := by
  rw [lexemes_cons, h]

theorem lexemes_bad {f : Fault} (h : next (isVerbose stack) c s = (some (bad f), r)) :
    lexemes stack (c :: s) = [bad f] := by
  rw [lexemes_cons, h]

theorem lexemes_take {l : Lexeme} (h : next (isVerbose stack) c s = (some l, r))
    (hl : ∀ f, l ≠ bad f) : lexemes stack (c :: s) = l :: lexemes (after stack l) r := by
  rw [lexemes_cons, h]
  cases l <;> first | rfl | exact absurd rfl (hl _)

/-- The same with the lexemes that follow. -/
theorem lexemes_step {l : Lexeme} {ls : List Lexeme}
    (h : next (isVerbose stack) c s = (some l, r)) (hl : ∀ f, l ≠ bad f)
    (hr : lexemes (after stack l) r = ls) : lexemes stack (c :: s) = l :: ls :=
  hr ▸ lexemes_take h hl

end

end ProxyMaps.Regex.Lexeme
