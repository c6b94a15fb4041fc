/-
Numbers of repetitions that are too large, or have too many digits to be read.
They are a fault that is told apart from all others, and no reader but the one
of braces has such a fault (`next_fault`). So the lexemes of a text end in one
exactly if reading comes to braces with a bound of that kind
(`exceedsBehind_iff`).
-/
import ProxyMaps.Proofs.Regex.Reading

namespace ProxyMaps.Regex.Lexeme

/-! ## Bounds -/

/-- Digits that write too large a number of repetitions, or are too many to be read. -/
def IsExcessive (ds : List Char) : Prop :=
  Decimal.maxDigits < ds.length ∨ maxLoop ≤ ofDigits 10 ds

theorem not_isExcessive_nil : ¬ IsExcessive [] := by
  simp [IsExcessive, ofDigits, Decimal.Integer.ofDigits, maxLoop]

theorem isExcessive_iff {ds : List Char} : IsExcessive ds ↔ ∃ f, loopBound ds = .error f := by
  simp only [IsExcessive, loopBound]
  by_cases hlong : Decimal.maxDigits < ds.length
  · simp [hlong]
  · by_cases hlarge : maxLoop ≤ ofDigits 10 ds <;> simp [hlong, hlarge]

theorem loopBound_ne_malformed {ds : List Char} {f : Fault} (h : loopBound ds = .error f) :
    f ≠ .malformed := by
  simp only [loopBound] at h
  repeat' split at h
  all_goals cases h
  all_goals simp

/-- Bounds are too large if one of them is; else they can only be in the wrong order. -/
theorem loopBounds_exceed_iff {low high : List Char} :
    (∃ f, f ≠ .malformed ∧ loopBounds low high = .error f) ↔
      IsExcessive low ∨ IsExcessive high := by
  rw [isExcessive_iff, isExcessive_iff]
  cases hlow : loopBound low with
  | error f =>
    have hbounds : loopBounds low high = .error f := by
      rw [loopBounds, hlow]
      rfl
    simp [hbounds, loopBound_ne_malformed hlow]
  | ok min =>
    by_cases hempty : high = []
    · subst hempty
      have hbounds : loopBounds low [] = .ok (min, none) := by
        rw [loopBounds, hlow]
        rfl
      have hnil : ¬ ∃ f, loopBound [] = .error f := mt isExcessive_iff.2 not_isExcessive_nil
      simp [hbounds, hnil]
    · have hbounds : loopBounds low high = loopBound high >>= fun max =>
          if max < min then .error .malformed else .ok (min, some max) := by
        rw [loopBounds, hlow]
        simp [hempty, bind, Except.bind, pure, Except.pure]
      rw [hbounds]
      cases hhigh : loopBound high with
      | error f => simp [bind, Except.bind, loopBound_ne_malformed hhigh]
      | ok max =>
        simp only [bind, Except.bind]
        split <;> simp

/-! ## The faults of lexemes -/

section Faults

variable {f : Fault}

theorem digitEscape_fault {d : Char} {s : List Char} (h : (digitEscape d s).1 = bad f) :
    f = .malformed := by
  unfold digitEscape at h
  split at h
  · split at h
    · split at h
      · split at h
        · dsimp only at h
          split at h <;> cases h
          rfl
        · cases h
      · cases h
    · cases h
  · cases h

theorem switching_fault {on off : Flags} {s : List Char}
    (h : (switching on off s).1 = bad f) : f = .malformed := by
  unfold switching at h
  split at h <;> cases h
  rfl

theorem turnOff_fault {on : Flags} {s : List Char} (h : (turnOff on s).1 = bad f) :
    f = .malformed := by
  unfold turnOff at h
  split at h
  · exact switching_fault h
  · cases h
    rfl

theorem flags_fault {s : List Char} (h : (flags s).1 = bad f) : f = .malformed := by
  unfold flags at h
  repeat' split at h
  all_goals try cases h
  all_goals try rfl
  · exact turnOff_fault h
  · exact switching_fault h
  · exact turnOff_fault h

theorem extension_fault {s : List Char} (h : (extension s).1 = some (bad f)) :
    f = .malformed := by
  revert h
  fun_cases extension s with
  | case15 _ l r _ _ _ _ _ _ _ _ _ _ hflags =>
    intro h
    cases h
    exact flags_fault (congrArg Prod.fst hflags)
  | case2 | case4 | case7 | case13 =>
    intro h
    cases h
    rfl
  | _ => exact fun h => by cases h

theorem brace_fault {s : List Char} (h : (brace s).1 = bad f) (hf : f ≠ .malformed) :
    ∃ low high behind, bounds? s = some (low, high, behind) ∧ behind ≠ ['\\'] ∧
      loopBounds low high = .error f := by
  unfold brace at h
  split at h
  · cases h
  next low high behind hbounds =>
    split at h
    · cases h
      exact absurd rfl hf
    next hbehind =>
      split at h
      · cases h
      next g hg =>
        cases h
        exact ⟨low, high, behind, hbounds, hbehind, hg⟩

variable [Text.CharacterNames]

theorem escape_fault {c : Char} {s : List Char} (h : (escape c s).1 = bad f) :
    f = .malformed := by
  unfold escape at h
  repeat' split at h
  all_goals try cases h
  all_goals try rfl
  exact digitEscape_fault h

theorem class_fault {s : List Char} (h : ((class? s).getD (bad .malformed, [])).1 = bad f) :
    f = .malformed := by
  cases hclass : class? s with
  | none =>
    rw [hclass] at h
    cases h
    rfl
  | some p =>
    rw [hclass] at h
    simp only [class?, Option.bind_eq_bind, Option.bind_eq_some_iff, Option.pure_def,
      Option.some.injEq] at hclass
    obtain ⟨_, -, rfl⟩ := hclass
    cases h

theorem next_fault {v : Bool} {c : Char} {s r : List Char}
    (h : next v c s = (some (bad f), r)) (hf : f ≠ .malformed) :
    c = '\x7b' ∧ ∃ low high behind, bounds? s = some (low, high, behind) ∧ behind ≠ ['\\'] ∧
      loopBounds low high = .error f := by
  have hone : (next v c s).1 = some (bad f) := by rw [h]
  unfold next at hone
  split at hone
  · cases hone
  split at hone
  · cases hone
  dsimp only at hone
  split at hone
  · split at hone
    · exact absurd (escape_fault (Option.some.inj hone)) hf
    · cases hone
      exact absurd rfl hf
  · exact absurd (class_fault (Option.some.inj hone)) hf
  · cases hone
  · cases hone
  · cases hone
  · exact ⟨rfl, brace_fault (Option.some.inj hone) hf⟩
  · cases hone
  · cases hone
  · cases hone
  · cases hone
  · cases hone
  · split at hone
    · exact absurd (extension_fault hone) hf
    · cases hone
  · cases hone

end Faults

/-! ## Reading up to a bound -/

variable [Text.CharacterNames]

/-- Reading a text comes, behind some lexemes, to what is left of it. -/
inductive Reaches : VerboseStack → List Char → List Lexeme → List Char → Prop where
  | here (stack : VerboseStack) (s : List Char) : Reaches stack s [] s
  | skip {stack : VerboseStack} {c : Char} {s r t : List Char} {ls : List Lexeme}
      (h : next (isVerbose stack) c s = (none, r)) (hr : Reaches stack r ls t) :
      Reaches stack (c :: s) ls t
  | take {stack : VerboseStack} {c : Char} {s r t : List Char} {l : Lexeme} {ls : List Lexeme}
      (h : next (isVerbose stack) c s = (some l, r)) (hl : ∀ f, l ≠ bad f)
      (hr : Reaches (after stack l) r ls t) : Reaches stack (c :: s) (l :: ls) t

/-- Behind some lexemes stands a repetition with a bound that is too large. -/
def ExceedsBehind (stack : VerboseStack) (s : List Char) (ls : List Lexeme) : Prop :=
  ∃ rest low high behind, Reaches stack s ls ('\x7b' :: rest) ∧
    bounds? rest = some (low, high, behind) ∧ behind ≠ ['\\'] ∧
    (IsExcessive low ∨ IsExcessive high)

/-- The braces of bounds that are too large are a fault like no other. -/
theorem next_excessive {v : Bool} {s low high behind : List Char}
    (hbounds : bounds? s = some (low, high, behind)) (hbehind : behind ≠ ['\\']) {f : Fault}
    (hf : loopBounds low high = .error f) : next v '\x7b' s = (some (bad f), []) := by
  have hbrace : brace s = (bad f, []) := by
    simp only [brace, hbounds, hbehind, if_false, hf]
  have hblank : isBlank '\x7b' = false := rfl
  simp [next, hblank, hbrace]

theorem ExceedsBehind.exists_bad {stack : VerboseStack} {s : List Char} {ls : List Lexeme}
    (h : ExceedsBehind stack s ls) :
    ∃ f, f ≠ .malformed ∧ lexemes stack s = ls ++ [bad f] := by
  obtain ⟨rest, low, high, behind, hreaches, hbounds, hbehind, hexcess⟩ := h
  obtain ⟨f, hf, hfault⟩ := loopBounds_exceed_iff.2 hexcess
  refine ⟨f, hf, ?_⟩
  generalize htext : '\x7b' :: rest = text at hreaches
  induction hreaches with
  | here stack s =>
    subst htext
    exact lexemes_bad (next_excessive hbounds hbehind hfault)
  | skip hnext _ ih => rw [lexemes_skip hnext, ih htext]
  | take hnext hl _ ih => rw [lexemes_take hnext hl, ih htext, List.cons_append]

/-- What is not malformed among the faults of lexemes is a bound that is too large. -/
theorem exceedsBehind_iff {stack : VerboseStack} {s : List Char} {ls : List Lexeme} :
    ExceedsBehind stack s ls ↔
      ∃ f more, f ≠ .malformed ∧ lexemes stack s = ls ++ bad f :: more := by
  constructor
  · intro h
    obtain ⟨f, hf, hlexemes⟩ := h.exists_bad
    exact ⟨f, [], hf, hlexemes⟩
  intro h
  obtain ⟨f, more, hf, h⟩ := h
  -- induction on the text that is left, which every lexeme shortens
  induction hn : s.length using Nat.strongRecOn generalizing stack s ls with
  | _ n ih =>
    subst hn
    cases s with
    | nil => simp at h
    | cons c s =>
      rcases hnext : next (isVerbose stack) c s with ⟨_ | l, r⟩
      all_goals have hlt : r.length < (c :: s).length :=
        Nat.lt_succ_of_le (by simpa [hnext] using (next_suffix (isVerbose stack) c s).length_le)
      · rw [lexemes_skip hnext] at h
        obtain ⟨rest, low, high, behind, hreaches, hexcess⟩ := ih _ hlt h rfl
        exact ⟨rest, low, high, behind, .skip hnext hreaches, hexcess⟩
      by_cases hl : ∃ g, l = bad g
      · obtain ⟨g, rfl⟩ := hl
        rw [lexemes_bad hnext] at h
        obtain rfl : ls = [] := by
          cases ls with
          | nil => rfl
          | cons _ ls => simp at h
        obtain rfl : g = f := by simpa using (List.cons.inj h).1
        obtain ⟨rfl, low, high, behind, hbounds, hbehind, hfault⟩ := next_fault hnext hf
        exact ⟨s, low, high, behind, .here _ _, hbounds, hbehind,
          loopBounds_exceed_iff.1 ⟨g, hf, hfault⟩⟩
      · have hl' : ∀ g, l ≠ bad g := fun g hg => hl ⟨g, hg⟩
        rw [lexemes_take hnext hl'] at h
        cases ls with
        | nil => exact absurd (List.cons.inj h).1 (hl' f)
        | cons l' ls =>
          obtain ⟨rfl, htail⟩ := List.cons.inj h
          obtain ⟨rest, low, high, behind, hreaches, hexcess⟩ := ih _ hlt htail rfl
          exact ⟨rest, low, high, behind, .take hnext hl' hreaches, hexcess⟩

end ProxyMaps.Regex.Lexeme
