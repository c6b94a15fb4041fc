/-
Groups opening and closing while the lexemes of a pattern are taken.

What one lexeme does to the groups around is `State.outer_step`. From it
follows that the groups nest as the brackets do (`openGroups_step`), and that
lexemes between the brackets of a group do there what they do outside of it
(`State.run_inside`).
-/
import ProxyMaps.Regex.Nesting

namespace ProxyMaps.Regex

namespace Lexeme

/-- The number of groups that are open behind lexemes, if no bracket closes more than are open. -/
def openGroups : Nat → List Lexeme → Option Nat
  | n, [] => some n
  | n, opening _ :: ls => openGroups (n + 1) ls
  | 0, close :: _ => none
  | n + 1, close :: ls => openGroups n ls
  | n, _ :: ls => openGroups n ls

/-- What does not close too many groups does not close too many in its front part. -/
theorem openGroups_of_append {n : Nat} {xs ys : List Lexeme} (h : openGroups n (xs ++ ys) ≠ none) :
    openGroups n xs ≠ none := by
  fun_induction openGroups n xs with
  | case1 => exact Option.some_ne_none _
  | case3 => exact absurd rfl h
  | case2 _ _ _ ih | case4 _ _ ih => exact ih h
  | case5 n l xs _ _ _ ih =>
    apply ih
    cases n <;> cases l <;> simp_all [openGroups]

end Lexeme

namespace Nesting

open Lexeme

/-! ## Runs -/

theorem State.run_append (st : State) (xs ys : List Lexeme) :
    st.run (xs ++ ys) = st.run xs >>= fun st => st.run ys := by
  induction xs generalizing st with
  | nil => rfl
  | cons l xs ih =>
    simp only [List.cons_append, run]
    cases st.step l with
    | ok st' => exact ih st'
    | error f => rfl

theorem ofPattern_eq_bind [Text.CharacterNames] (s : List Char) :
    ofPattern s = (State.run {} (Lexeme.ofPattern s)).bind State.finish := by
  rw [ofPattern]
  cases State.run {} (Lexeme.ofPattern s) <;> rfl

/-! ## The groups around -/

/-- What the open groups will be, the innermost first. -/
def State.roles (s : State) : List Role := s.top.role :: s.outer.map Frame.role

/-- Opening a group puts an empty one on the open ones. -/
theorem State.openGroup_ok {s s' : State} {o : Opening} (h : s.openGroup o = .ok s') :
    ∃ role flags, s'.top = ⟨role, flags, [], []⟩ ∧ s'.outer = s.top :: s.outer ∧
      s'.globals = s.globals := by
  cases o with
  | capture name =>
    cases name with
    | none =>
      cases h
      exact ⟨_, _, rfl, rfl, rfl⟩
    | some name =>
      simp only [openGroup, enterCapture] at h
      split at h <;> cases h
      exact ⟨_, _, rfl, rfl, rfl⟩
  | ifGroup ref =>
    simp only [openGroup] at h
    split at h
    · cases h
    · split at h <;> cases h
      exact ⟨_, _, rfl, rfl, rfl⟩
  | look behind negated => cases behind <;> cases h <;> exact ⟨_, _, rfl, rfl, rfl⟩
  | plain | atomic =>
    cases h
    exact ⟨_, _, rfl, rfl, rfl⟩

/-- Leaving a group adds a piece to the one below. -/
theorem State.leave_eq (s : State) (below : Frame) (outer : List Frame) :
    ∃ p, (s.leave below outer).top = below.push p ∧ (s.leave below outer).outer = outer ∧
      (s.leave below outer).globals = s.globals := by
  rw [leave]
  dsimp only
  split <;> exact ⟨_, rfl, rfl, rfl⟩

/-- A step puts a group on the open ones, takes one from them, or leaves them alone. -/
theorem State.roles_step {s s' : State} {l : Lexeme} (h : s.step l = .ok s') :
    (∃ o r, l = opening o ∧ s'.roles = r :: s.roles) ∨
      (∃ r, l = close ∧ s.roles = r :: s'.roles) ∨
      ((∀ o, l ≠ opening o) ∧ l ≠ close ∧ s'.roles = s.roles) := by
  cases l with
  | opening o =>
    obtain ⟨role, flags, htop, houter, -⟩ := openGroup_ok h
    refine .inl ⟨o, role, rfl, ?_⟩
    rw [roles, htop, houter]
    rfl
  | close =>
    refine .inr (.inl ⟨s.top.role, rfl, ?_⟩)
    simp only [step] at h
    split at h <;> cases h
    next below outer hs =>
      obtain ⟨p, htop, houter, -⟩ := s.leave_eq below outer
      rw [roles, roles, hs, htop, houter]
      rfl
  | bad f => cases h
  | members negated items =>
    refine .inr (.inr ⟨by simp, by simp, ?_⟩)
    rcases items with _ | ⟨_ | _ | _, _ | _⟩ <;> cases h <;> rfl
  | loop | bar | backref | globalFlags =>
    refine .inr (.inr ⟨by simp, by simp, ?_⟩)
    simp only [step, repeatLast, bar, refer] at h
    repeat' split at h
    all_goals cases h
    all_goals rfl
  | code | anyChar | caret | dollar | textStart | textEnd | wordEdge =>
    cases h
    exact .inr (.inr ⟨by simp, by simp, rfl⟩)

/-- But for a fault of the text, a lexeme that does not close a group can only break the grammar. -/
theorem State.step_error {s : State} {l : Lexeme} {f : Fault} (h : s.step l = .error f)
    (hclose : l ≠ close) (hbad : l ≠ bad f) : f = .malformed := by
  cases l with
  | bad g => cases h; exact absurd rfl hbad
  | close => exact absurd rfl hclose
  | opening o =>
    simp only [step] at h
    cases o with
    | capture name =>
      cases name with
      | none => cases h
      | some name =>
        simp only [openGroup, enterCapture] at h
        split at h <;> cases h
        rfl
    | ifGroup ref =>
      simp only [openGroup] at h
      split at h
      · cases h; rfl
      · split at h <;> cases h
        rfl
    | look behind negated => cases behind <;> cases h
    | plain | atomic => cases h
  | members negated items => rcases items with _ | ⟨_ | _ | _, _ | _⟩ <;> cases h
  | loop | bar | backref | globalFlags =>
    simp only [step, repeatLast, bar, refer] at h
    repeat' split at h
    all_goals cases h
    all_goals rfl
  | code | anyChar | caret | dollar | textStart | textEnd | wordEdge => cases h

theorem State.openGroups_step {s s' : State} {l : Lexeme} (h : s.step l = .ok s')
    (ls : List Lexeme) :
    openGroups s.outer.length (l :: ls) = openGroups s'.outer.length ls := by
  have hlength : ∀ s : State, s.roles.length = s.outer.length + 1 := fun s => by simp [roles]
  have hs := hlength s
  have hs' := hlength s'
  rcases s.roles_step h with ⟨o, r, rfl, hr⟩ | ⟨r, rfl, hr⟩ | ⟨hopen, hclose, hr⟩
  · rw [hr, List.length_cons, hs] at hs'
    obtain hn : s'.outer.length = s.outer.length + 1 := by omega
    rw [hn]
    cases s.outer.length <;> rfl
  · rw [hr, List.length_cons, hs'] at hs
    obtain hn : s.outer.length = s'.outer.length + 1 := by omega
    rw [hn]
    rfl
  · rw [hr, hs] at hs'
    obtain hn : s'.outer.length = s.outer.length := by omega
    rw [hn]
    cases s.outer.length <;> cases l <;>
      first | rfl | exact absurd rfl hclose | exact absurd rfl (hopen _)

theorem State.openGroups_run {s s' : State} {ls : List Lexeme} (h : s.run ls = .ok s') :
    openGroups s.outer.length ls = some s'.outer.length := by
  induction ls generalizing s with
  | nil =>
    cases h
    cases s'.outer <;> rfl
  | cons l ls ih =>
    simp only [run] at h
    split at h
    next s₁ h₁ => rw [openGroups_step h₁, ih h]
    · cases h

theorem State.outer_of_finish {s : State} {r : Result} (h : s.finish = .ok r) : s.outer = [] := by
  simp only [finish] at h
  split at h
  · cases h
  next hs => simpa using hs

/-- What is a pattern has been taken to its end. -/
theorem exists_run_of_ok [Text.CharacterNames] {s : List Char} {r : Result}
    (h : ofPattern s = .ok r) :
    ∃ st, State.run {} (Lexeme.ofPattern s) = .ok st ∧ st.finish = .ok r := by
  rw [ofPattern_eq_bind] at h
  cases hrun : State.run {} (Lexeme.ofPattern s) with
  | error f =>
    rw [hrun] at h
    cases h
  | ok st =>
    rw [hrun] at h
    exact ⟨st, rfl, h⟩

/-- A pattern closes the groups that it opens, and no other ones. -/
theorem openGroups_of_ok [Text.CharacterNames] {s : List Char} {r : Result}
    (h : ofPattern s = .ok r) : openGroups 0 (Lexeme.ofPattern s) = some 0 := by
  obtain ⟨st, hrun, hfinish⟩ := exists_run_of_ok h
  have hcount := State.openGroups_run (s := {}) hrun
  rwa [State.outer_of_finish hfinish] at hcount

/-- The outermost group is the whole pattern. -/
def State.Rooted (s : State) : Prop := s.roles.getLast? = some .whole

theorem State.Rooted.step {s s' : State} {l : Lexeme} (hs : s.Rooted) (h : s.step l = .ok s') :
    s'.Rooted := by
  unfold Rooted at *
  rcases s.roles_step h with ⟨o, r, -, hr⟩ | ⟨r, -, hr⟩ | ⟨-, -, hr⟩
  · rw [hr, ← hs, roles, List.getLast?_cons_cons]
  · rwa [hr, roles, List.getLast?_cons_cons] at hs
  · rw [hr, hs]

theorem State.Rooted.run {s s' : State} {ls : List Lexeme} (hs : s.Rooted)
    (h : s.run ls = .ok s') : s'.Rooted := by
  induction ls generalizing s with
  | nil =>
    cases h
    exact hs
  | cons l ls ih =>
    simp only [State.run] at h
    split at h
    next s₁ h₁ => exact ih (hs.step h₁) h
    · cases h

theorem State.Rooted.role_top {s : State} (hs : s.Rooted) (houter : s.outer = []) :
    s.top.role = .whole := by
  simpa [Rooted, roles, houter] using hs

/-- Without a closing bracket no pattern comes to its end from inside of a group. -/
theorem State.finish_run_of_outer_ne_nil {s : State} {ls : List Lexeme} (hs : s.outer ≠ [])
    (hclose : close ∉ ls) : ∃ f, (s.run ls).bind State.finish = .error f := by
  induction ls generalizing s with
  | nil => exact ⟨.malformed, by simp [run, Except.bind, finish, hs]⟩
  | cons l ls ih =>
    have hl : l ≠ close := fun h => hclose (h ▸ List.mem_cons_self)
    simp only [run]
    cases hstep : s.step l with
    | error f => exact ⟨f, rfl⟩
    | ok s' =>
      refine ih ?_ fun h => hclose (List.mem_cons_of_mem _ h)
      intro hs'
      rcases s.roles_step hstep with ⟨o, r, -, hr⟩ | ⟨r, h, -⟩ | ⟨-, -, hr⟩
      · simp [roles, hs'] at hr
      · exact absurd h hl
      · simp [roles, hs', hs] at hr

/-! ## The states inside of one more group -/

/-- A frame as it is inside of another group, where none is that of the whole pattern. -/
def Frame.inside (f : Frame) : Frame :=
  { f with role := if f.role = .whole then .plain else f.role }

/-- A state as it is inside of another group, with the frame around that. -/
def State.inside (base : Frame) (s : State) : State :=
  { s with top := s.top.inside, outer := s.outer.map Frame.inside ++ [base] }

section Inside

variable {base : Frame} {s : State}

@[simp] theorem State.number?_inside (ref : GroupRef) :
    (s.inside base).number? ref = s.number? ref := rfl

@[simp] theorem State.width?_inside (n : Nat) : (s.inside base).width? n = s.width? n := rfl

@[simp] theorem State.reachable_inside (n : Nat) :
    (s.inside base).reachable n = s.reachable n := rfl

theorem State.refer_inside (ref : GroupRef) :
    (s.inside base).refer ref = (s.refer ref).map (State.inside base) := by
  simp only [refer, number?_inside]
  cases s.number? ref with
  | none => rfl
  | some n =>
    simp only [width?_inside]
    cases s.width? n with
    | none => rfl
    | some w =>
      cases h : s.reachable n with
      | false => simp only [reachable_inside, h, Bool.false_eq_true, if_false, Except.map]
      | true =>
        simp only [reachable_inside, h, if_true, Except.map]
        rfl

theorem State.enterCapture_inside (name : Option (List Char)) :
    (s.inside base).enterCapture name = (s.enterCapture name).map (State.inside base) := by
  cases name with
  | none => rfl
  | some name =>
    by_cases h : (s.number? (.name name)).isSome = true
    · have herror : s.enterCapture (some name) = .error .malformed := if_pos h
      rw [herror]
      exact if_pos h
    · have hok : s.enterCapture (some name) = .ok _ := if_neg h
      rw [hok]
      exact if_neg h

theorem State.openGroup_inside (o : Opening) :
    (s.inside base).openGroup o = (s.openGroup o).map (State.inside base) := by
  cases o with
  | capture name => exact enterCapture_inside name
  | plain | atomic => rfl
  | look behind negated => cases behind <;> rfl
  | ifGroup ref =>
    simp only [openGroup, number?_inside]
    cases s.number? ref with
    | none => rfl
    | some n =>
      cases h : s.reachable n with
      | false => simp only [reachable_inside, h, Bool.false_eq_true, if_false, Except.map]
      | true =>
        simp only [reachable_inside, h, if_true, Except.map]
        rfl

theorem State.leave_inside (below : Frame) (outer : List Frame) :
    (s.inside base).leave below.inside (outer.map Frame.inside ++ [base]) =
      (s.leave below outer).inside base := by
  obtain ⟨⟨role, flags, done, pieces⟩, around⟩ := s
  rcases role with _ | _ | _ | _ | ⟨_ | _, _, _⟩ | _ <;> rfl

/-- One lexeme does the same in a group, unless it belongs to the group or to the whole pattern. -/
theorem State.step_inside {l : Lexeme} (hglobal : ∀ on, l ≠ globalFlags on)
    (hclose : l = close → s.outer ≠ []) :
    (s.inside base).step l = (s.step l).map (State.inside base) := by
  cases l with
  | code | anyChar | caret | dollar | textStart | textEnd | wordEdge | bad => rfl
  | members negated items => rcases items with _ | ⟨_ | _ | _, _ | _⟩ <;> rfl
  | loop min max mode =>
    obtain ⟨⟨role, flags, done, pieces⟩, outer⟩ := s
    rcases pieces with _ | ⟨⟨_, _, _ | _ | _⟩, _⟩ <;> rfl
  | bar =>
    obtain ⟨⟨role, flags, done, pieces⟩, outer⟩ := s
    cases role <;> cases done <;> rfl
  | backref ref => exact refer_inside ref
  | opening o => exact openGroup_inside o
  | close =>
    cases houter : s.outer with
    | nil => exact absurd houter (hclose rfl)
    | cons below outer =>
      have hstep : s.step close = .ok (s.leave below outer) := by simp only [step, houter]
      have hinside : (s.inside base).outer =
          below.inside :: (outer.map Frame.inside ++ [base]) := by
        simp [inside, houter]
      simp only [step, hinside, houter, leave_inside, Except.map]
  | globalFlags on => exact absurd rfl (hglobal on)

end Inside

/-- In a group lexemes do the same, or there are switches for the whole pattern among them. -/
theorem State.run_inside {base : Frame} {s : State} {ls : List Lexeme}
    (h : openGroups s.outer.length ls ≠ none) :
    (s.inside base).run ls = (s.run ls).map (State.inside base) ∨
      (∃ on, globalFlags on ∈ ls) ∧ (s.inside base).run ls = .error .malformed := by
  induction ls generalizing s with
  | nil => exact .inl rfl
  | cons l ls ih =>
    by_cases hl : ∃ on, l = globalFlags on
    · obtain ⟨on, rfl⟩ := hl
      refine .inr ⟨⟨on, List.mem_cons_self⟩, ?_⟩
      have hstart : (s.inside base).atStart = false := by simp [State.inside, atStart]
      simp [run, step, hstart]
    have hclose : l = close → s.outer ≠ [] := by
      rintro rfl hs
      rw [hs] at h
      exact h rfl
    have hstep : (s.inside base).step l = (s.step l).map (State.inside base) :=
      step_inside (fun on hon => hl ⟨on, hon⟩) hclose
    simp only [run, hstep]
    cases hs : s.step l with
    | error f => exact .inl rfl
    | ok s' =>
      rw [openGroups_step hs] at h
      exact (ih h).imp_right fun h => ⟨h.1.imp fun on hon => List.mem_cons_of_mem _ hon, h.2⟩

end Nesting

end ProxyMaps.Regex
