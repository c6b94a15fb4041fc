/-
Whether the functions that match whole texts answer at all. A pattern that
breaks the grammar has an answer, since it matches nothing. There is none where
a number of repetitions is too large, as far as reading comes to it: all that
stands in front of it has been read and taken without a fault (`Overflows`).

Nothing else keeps a pattern from being compiled. Switches of the whole pattern
that exclude each other would, but behind the text that is put around a pattern
they cannot be set (`State.Settled`). What is not in the model is how deep a
reader of patterns can recurse.
-/
import ProxyMaps.Proofs.Regex.Anchored
import ProxyMaps.Proofs.Regex.Cache
import ProxyMaps.Proofs.Regex.Excess

namespace ProxyMaps.Regex

namespace Nesting

open Lexeme

/-! ## The faults of a pattern -/

theorem State.atStart_push (s : State) (p : Piece) : (s.push p).atStart = false := by
  simp [push, Frame.push, atStart]

/-- Whatever a lexeme does, it is no longer the start then, and only switches switch. -/
theorem State.globals_step {s s' : State} {l : Lexeme} (hl : ∀ on, l ≠ globalFlags on)
    (h : s.step l = .ok s') : s'.globals = s.globals ∧ s'.atStart = false := by
  cases l with
  | globalFlags on => exact absurd rfl (hl on)
  | bad f => cases h
  | code | anyChar | caret | dollar | textStart | textEnd | wordEdge =>
    cases h
    exact ⟨rfl, atStart_push _ _⟩
  | members negated items =>
    rcases items with _ | ⟨_ | _ | _, _ | _⟩ <;> cases h <;> exact ⟨rfl, atStart_push _ _⟩
  | backref ref =>
    simp only [step, refer] at h
    repeat' split at h
    all_goals cases h
    exact ⟨rfl, atStart_push _ _⟩
  | loop min max mode =>
    simp only [step, repeatLast] at h
    split at h <;> cases h
    exact ⟨rfl, by simp [atStart]⟩
  | bar =>
    simp only [step, bar] at h
    split at h <;> cases h
    exact ⟨rfl, by simp [Frame.split, atStart]⟩
  | close =>
    simp only [step] at h
    split at h <;> cases h
    next below outer hs =>
      obtain ⟨p, htop, -, hglobals⟩ := s.leave_eq below outer
      exact ⟨hglobals, by simp [atStart, htop, Frame.push]⟩
  | opening o =>
    obtain ⟨role, flags, -, houter, hglobals⟩ := openGroup_ok h
    exact ⟨hglobals, by simp [atStart, houter]⟩

/-- No switches for the whole pattern are set, and none come first where they could be set. -/
def State.Settled (s : State) (ls : List Lexeme) : Prop :=
  s.globals = {} ∧ (s.atStart = true → ∀ on, ls.head? ≠ some (globalFlags on))

namespace State.Settled

variable {s s' : State} {l : Lexeme} {ls : List Lexeme} {f : Fault}

theorem step (hs : s.Settled (l :: ls)) (h : s.step l = .ok s') : s'.Settled ls := by
  have hl : ∀ on, l ≠ globalFlags on := by
    rintro on rfl
    by_cases hstart : s.atStart = true
    · exact hs.2 hstart on rfl
    · simp [State.step, hstart] at h
  obtain ⟨hglobals, hstart⟩ := globals_step hl h
  exact ⟨hglobals.trans hs.1, fun h => by simp [hstart] at h⟩

theorem step_fault (hs : s.Settled (l :: ls)) (h : s.step l = .error f) :
    f = .malformed ∨ l = bad f := by
  by_cases hbad : l = bad f
  · exact .inr hbad
  by_cases hclose : l = close
  · subst hclose
    simp only [State.step] at h
    split at h <;> cases h
    simp [endFault, hs.1]
  · exact .inl (step_error h hclose hbad)

theorem finish_fault (hs : s.Settled ls) (h : s.finish = .error f) : f = .malformed := by
  simp only [finish, hs.1] at h
  repeat' split at h
  all_goals simp_all

/-- A pattern has a fault but that it is malformed if the lexemes come to that fault. -/
theorem run_finish_eq_error_iff (hs : s.Settled ls) (hf : f ≠ .malformed) :
    (s.run ls).bind State.finish = .error f ↔
      ∃ front more s', ls = front ++ bad f :: more ∧ s.run front = .ok s' := by
  constructor
  · intro h
    induction ls generalizing s with
    | nil => exact absurd (hs.finish_fault h) hf
    | cons l ls ih =>
      simp only [run] at h
      cases hstep : s.step l with
      | ok s₁ =>
        rw [hstep] at h
        obtain ⟨front, more, s', rfl, hrun⟩ := ih (hs.step hstep) h
        exact ⟨l :: front, more, s', rfl, by simpa only [run, hstep] using hrun⟩
      | error g =>
        rw [hstep] at h
        cases h
        rcases hs.step_fault hstep with hg | rfl
        · exact absurd hg hf
        · exact ⟨[], ls, s, rfl, rfl⟩
  · intro h
    obtain ⟨front, more, s', rfl, hrun⟩ := h
    rw [run_append, hrun]
    rfl

end State.Settled

variable [Text.CharacterNames]

/-- Reading a text comes to a bound that is too large before anything else is wrong with it. -/
def Overflows (s : List Char) : Prop :=
  ∃ ls st, State.run {} ls = .ok st ∧ ExceedsBehind [false] s ls

/-- A text overflows if it is no pattern, and that not because it breaks the grammar. -/
theorem overflows_iff {s : List Char} (hs : State.Settled {} (Lexeme.ofPattern s)) :
    Overflows s ↔ ∃ f, f ≠ .malformed ∧ ofPattern s = .error f := by
  simp only [Overflows, exceedsBehind_iff, ofPattern_eq_bind]
  constructor
  · intro h
    obtain ⟨ls, st, hrun, f, more, hf, hls⟩ := h
    exact ⟨f, hf, (hs.run_finish_eq_error_iff hf).2 ⟨ls, more, st, hls, hrun⟩⟩
  · intro h
    obtain ⟨f, hf, h⟩ := h
    obtain ⟨ls, more, st, hls, hrun⟩ := (hs.run_finish_eq_error_iff hf).1 h
    exact ⟨ls, st, hrun, f, more, hf, hls⟩

end Nesting

/-! ## The answers of a cache -/

open Nesting (Overflows)

theorem orMalformed_isOk_iff {α β : Type} {default : β} {x : Except Fault α} {g : α → β} :
    (∃ b, Cache.orMalformed default (x.map g) = .ok b) ↔
      ¬ ∃ f, f ≠ .malformed ∧ x = .error f := by
  cases x with
  | ok a => simp [Cache.orMalformed, Except.map]
  | error f => cases f <;> simp [Cache.orMalformed, Except.map]

section

variable [Text.CharacterNames]

theorem compile_eq_error_iff {text : String} {f : Fault} :
    Pattern.compile text = .error f ↔ Nesting.ofPattern text.toList = .error f := by
  rw [Pattern.compile]
  cases Nesting.ofPattern text.toList <;> simp [Except.map]

theorem overflows_anchored_iff {p : String} :
    Overflows (anchored p).toList ↔
      ∃ f, f ≠ .malformed ∧ Pattern.compile (anchored p) = .error f := by
  simp only [compile_eq_error_iff]
  exact Nesting.overflows_iff ⟨rfl, fun _ on => by simp [Nesting.lexemes_anchored]⟩

/-- Nothing is a match of a pattern, as far as the answers of a cache go. -/
def MatchesNothing (c : Cache) (pattern : String) : Prop :=
  (∀ s, ((Cache.matchesAll pattern s).run c).1 = .ok false) ∧
    ∀ values, ((Cache.firstMatch pattern values).run c).1 = .ok ""

/-- What is no pattern with the text around it matches nothing if that is because it is
malformed. -/
theorem matchesNothing_iff_of_error {c : Cache} (hc : c.Faithful) {pattern : String} {f : Fault}
    (h : Pattern.compile (anchored pattern) = .error f) :
    MatchesNothing c pattern ↔ f = .malformed := by
  simp only [MatchesNothing, hc.matchesAll, hc.firstMatch, h]
  cases f <;> simp [Except.map, Cache.orMalformed]

end

end ProxyMaps.Regex
