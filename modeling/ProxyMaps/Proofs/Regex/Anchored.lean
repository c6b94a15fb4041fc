/-
Patterns for the whole of a text. A pattern is put into a group by putting
text around it, so its lexemes are what they were, inside of one more group,
as long as the pattern itself closes no group that it has not opened.

What the lexemes of a pattern have in common with those that it has in the
group is `lexemes_closing`; how they end decides the rest.
-/
import ProxyMaps.Proofs.Regex.Nesting
import ProxyMaps.Proofs.Regex.Prolonged
import ProxyMaps.Regex.Pattern

namespace ProxyMaps.Regex

namespace Lexeme

/-- A lexeme opens or closes groups on the stack as it counts them. -/
theorem after_cons (v : Bool) (st : VerboseStack) (l : Lexeme) :
    (l = close ∧ st = []) ∨ ∃ w st', after (v :: st) l = w :: st' ∧
      ∀ ls, openGroups st.length (l :: ls) = openGroups st'.length ls := by
  cases l with
  | opening o => cases o <;> exact .inr ⟨_, _, rfl, fun ls => by cases st <;> rfl⟩
  | close =>
    cases st with
    | nil => exact .inl ⟨rfl, rfl⟩
    | cons w st => exact .inr ⟨w, st, rfl, fun ls => rfl⟩
  | _ => exact .inr ⟨_, _, rfl, fun ls => by cases st <;> rfl⟩

theorem after_append (v : Bool) (st below : VerboseStack) {l : Lexeme} (hl : l = close → st ≠ []) :
    after (v :: (st ++ below)) l = after (v :: st) l ++ below := by
  cases l with
  | opening o => cases o <;> rfl
  | close =>
    cases st with
    | nil => exact absurd rfl (hl rfl)
    | cons w st => rfl
  | _ => rfl

/-- What lies below all groups that a text closes does not matter for the stack. -/
theorem foldl_after_append {ls : List Lexeme} {v : Bool} {st : VerboseStack} (below : VerboseStack)
    (h : openGroups st.length ls ≠ none) :
    ls.foldl after (v :: (st ++ below)) = ls.foldl after (v :: st) ++ below := by
  induction ls generalizing v st with
  | nil => rfl
  | cons l ls ih =>
    rcases after_cons v st l with ⟨rfl, rfl⟩ | ⟨w, st', hafter, hcount⟩
    · exact absurd rfl h
    · rw [hcount] at h
      have hl : l = close → st ≠ [] := by
        rintro rfl rfl
        cases hafter
      rw [List.foldl_cons, List.foldl_cons, after_append v st below hl, hafter]
      exact ih h

variable [Text.CharacterNames]

/-- What lies below all groups that a text closes does not matter for its lexemes. -/
theorem lexemes_append {v : Bool} {st : VerboseStack} {s : List Char} (below : VerboseStack)
    (h : openGroups st.length (lexemes (v :: st) s) ≠ none) :
    lexemes (v :: (st ++ below)) s = lexemes (v :: st) s := by
  -- induction on the text that is left, which every lexeme shortens
  induction hn : s.length using Nat.strongRecOn generalizing v st s with
  | _ n ih =>
    subst hn
    rcases s with _ | ⟨c, s⟩
    · rfl
    rcases hp : next v c s with ⟨_ | l, r⟩
    all_goals have hlt : r.length < (c :: s).length :=
      Nat.lt_succ_of_le (by simpa [hp] using (next_suffix v c s).length_le)
    · have hskip : ∀ st, lexemes (v :: st) (c :: s) = lexemes (v :: st) r :=
        fun st => lexemes_skip hp
      rw [hskip] at h
      rw [hskip, hskip, ih _ hlt h rfl]
    by_cases hl : ∃ f, l = bad f
    · obtain ⟨f, rfl⟩ := hl
      have hbad : ∀ st, lexemes (v :: st) (c :: s) = [bad f] := fun st => lexemes_bad hp
      rw [hbad, hbad]
    have htake : ∀ st, lexemes (v :: st) (c :: s) = l :: lexemes (after (v :: st) l) r :=
      fun st => lexemes_take hp fun f hf => hl ⟨f, hf⟩
    rw [htake] at h
    rcases after_cons v st l with ⟨rfl, rfl⟩ | ⟨w, st', hafter, hcount⟩
    · exact absurd rfl h
    · have hclose : l = close → st ≠ [] := by
        rintro rfl rfl
        cases hafter
      rw [hcount, hafter] at h
      rw [htake, htake, after_append v st below hclose, hafter]
      exact congrArg (l :: ·) (ih _ hlt h rfl)

/-! ## The lexemes of a pattern with the closing behind it -/

/-- How the lexemes of a text end, without and with the closing, behind those that have led to
a stack. -/
inductive Ends (stack : VerboseStack) : List Lexeme → List Lexeme → Prop where
  /-- The text is complete. -/
  | complete : Ends stack [] [close, textEnd]
  /-- There is a fault that has nothing to do with the end. -/
  | fault (f : Fault) : Ends stack [bad f] [bad f]
  /-- The text breaks off, in a comment if not in a fault, and no bracket is left of the closing. -/
  | broken {ls ls' : List Lexeme} (h : ls = [bad .malformed] ∨ ls = [] ∧ isVerbose stack = true)
      (hclose : close ∉ ls') : Ends stack ls ls'

/-- With the closing behind it, a text has its own lexemes up to its end. -/
def Prolongs (stack : VerboseStack) (s : List Char) : Prop :=
  ∃ front ls ls', lexemes stack s = front ++ ls ∧ lexemes stack (s ++ closing) = front ++ ls' ∧
    Ends (front.foldl after stack) ls ls'

theorem Prolongs.of_ends {stack : VerboseStack} {s : List Char}
    (h : Ends stack (lexemes stack s) (lexemes stack (s ++ closing))) : Prolongs stack s :=
  ⟨[], _, _, rfl, rfl, h⟩

theorem lexemes_closing_nil (stack : VerboseStack) :
    lexemes stack closing = [close, textEnd] := by
  have hclose : ∀ v, next v ')' ['\\', 'Z'] = (some close, ['\\', 'Z']) := by
    intro v
    cases v <;> rfl
  have hend : ∀ v, next v '\\' ['Z'] = (some textEnd, []) := by
    intro v
    cases v <;> rfl
  exact lexemes_step (hclose _) (by simp) (lexemes_step (hend _) (by simp) (lexemes_nil _))

theorem close_not_mem_remains (stack : VerboseStack) {t : List Char} (ht : t ∈ remains) :
    close ∉ lexemes stack t := by
  have hend : ∀ v, next v '\\' ['Z'] = (some textEnd, []) := by
    intro v
    cases v <;> rfl
  have hquoted : ∀ v, next v '\\' [')', '\\', 'Z'] = (some (code ')'.toNat), ['\\', 'Z']) := by
    intro v
    cases v <;> rfl
  have hlast : ∀ stack, lexemes stack ['\\', 'Z'] = [textEnd] := fun stack =>
    lexemes_step (hend _) (by simp) (lexemes_nil _)
  simp only [remains, List.mem_cons, List.not_mem_nil, or_false] at ht
  rcases ht with rfl | rfl | rfl
  · simp
  · simp [hlast]
  · rw [lexemes_step (hquoted _) (by simp) (hlast _)]
    simp

/-- What a comment to the end leaves unread is no pattern, if it is anything. -/
theorem lexemes_comment_end (stack : VerboseStack) {r : List Char} (h : r = [] ∨ r = ['\\']) :
    lexemes stack r = [] ∨ lexemes stack r = [bad .malformed] := by
  have hlast : ∀ v, next v '\\' [] = (some (bad .malformed), []) := by
    intro v
    cases v <;> rfl
  rcases h with rfl | rfl
  · exact .inl (lexemes_nil _)
  · exact .inr (lexemes_bad (hlast _))

/-- What is skipped outside of verbose parts is a comment in brackets. -/
theorem next_skip {c : Char} {s r : List Char} (h : next false c s = (none, r)) :
    ∃ t, s = '?' :: '#' :: t ∧ skipComment? t = some r := by
  simp only [next, Bool.false_and, Bool.false_eq_true, if_false] at h
  split at h
  case h_12 =>
    split at h
    next t =>
      fun_cases extension t
      all_goals simp_all [extension]
    · simp at h
  all_goals first | (split at h <;> simp at h) | simp at h

/-- Outside of verbose parts no comment goes on to the end of the closing. -/
theorem isVerbose_of_comment {v : Bool} {c : Char} {s : List Char}
    (h : next v c (s ++ closing) = (none, [])) : v = true := by
  cases v with
  | true => rfl
  | false =>
    obtain ⟨t, hs, hskip⟩ := next_skip h
    have ht : ∃ u, t = u ++ closing := by
      rcases s with _ | ⟨d, _ | ⟨e, u⟩⟩
      · simp [closing] at hs
      · simp [closing] at hs
      · simp only [List.cons_append, List.cons.injEq] at hs
        exact ⟨u, hs.2.2.symm⟩
    obtain ⟨u, rfl⟩ := ht
    rcases skipComment?_gains u with hu | ⟨-, hu⟩
    · rw [hskip] at hu
      cases hr : skipComment? u <;> simp [hr, closing] at hu
    · simp [hskip] at hu

section Prolongs

variable {stack : VerboseStack} {c : Char} {s r : List Char}

theorem Prolongs.skip (hp : next (isVerbose stack) c s = (none, r))
    (hq : next (isVerbose stack) c (s ++ closing) = (none, r ++ closing))
    (h : Prolongs stack r) : Prolongs stack (c :: s) := by
  rwa [Prolongs, List.cons_append, lexemes_skip hp, lexemes_skip hq]

theorem Prolongs.take {l : Lexeme} (hp : next (isVerbose stack) c s = (some l, r))
    (hq : next (isVerbose stack) c (s ++ closing) = (some l, r ++ closing)) (hl : ∀ f, l ≠ bad f)
    (h : Prolongs (after stack l) r) : Prolongs stack (c :: s) := by
  obtain ⟨front, ls, ls', hls, hls', hends⟩ := h
  refine ⟨l :: front, ls, ls', ?_, ?_, hends⟩
  · rw [lexemes_take hp hl, hls, List.cons_append]
  · rw [List.cons_append, lexemes_take hq hl, hls', List.cons_append]

theorem Prolongs.bad {f : Fault} {r' : List Char}
    (hp : next (isVerbose stack) c s = (some (bad f), r))
    (hq : next (isVerbose stack) c (s ++ closing) = (some (bad f), r')) :
    Prolongs stack (c :: s) := by
  refine .of_ends ?_
  rw [List.cons_append, lexemes_bad hp, lexemes_bad hq]
  exact .fault f

theorem Prolongs.comment (hp : next (isVerbose stack) c s = (none, r))
    (hq : next (isVerbose stack) c (s ++ closing) = (none, [])) (hr : r = [] ∨ r = ['\\']) :
    Prolongs stack (c :: s) := by
  refine .of_ends ?_
  rw [List.cons_append, lexemes_skip hp, lexemes_skip hq, lexemes_nil]
  refine .broken ?_ List.not_mem_nil
  exact (lexemes_comment_end stack hr).symm.imp_right fun h => ⟨h, isVerbose_of_comment hq⟩

theorem Prolongs.broken {o : Option Lexeme} {t : List Char}
    (hp : next (isVerbose stack) c s = (some (Lexeme.bad .malformed), r))
    (hq : next (isVerbose stack) c (s ++ closing) = (o, t)) (ho : o ≠ some close)
    (ht : t ∈ remains) : Prolongs stack (c :: s) := by
  refine .of_ends ?_
  rw [lexemes_bad hp]
  refine .broken (.inl rfl) ?_
  rw [List.cons_append]
  rcases o with _ | l
  · rw [lexemes_skip hq]
    exact close_not_mem_remains _ ht
  by_cases hl : ∃ f, l = Lexeme.bad f
  · obtain ⟨f, rfl⟩ := hl
    rw [lexemes_bad hq]
    simp
  · rw [lexemes_take hq fun f hf => hl ⟨f, hf⟩, List.mem_cons, not_or]
    exact ⟨fun h => ho (congrArg some h.symm), close_not_mem_remains _ ht⟩

end Prolongs

theorem prolongs (stack : VerboseStack) (s : List Char) : Prolongs stack s := by
  -- induction on the text that is left, which every lexeme shortens
  induction hn : s.length using Nat.strongRecOn generalizing stack s with
  | _ n ih =>
    subst hn
    rcases s with _ | ⟨c, s⟩
    · refine .of_ends ?_
      rw [List.nil_append, lexemes_closing_nil]
      exact .complete
    have hnext := next_closing (isVerbose stack) c s
    have hlen := (next_suffix (isVerbose stack) c s).length_le
    rcases hp : next (isVerbose stack) c s with ⟨o, r⟩
    rcases hq : next (isVerbose stack) c (s ++ closing) with ⟨o', r'⟩
    rw [hp] at hlen
    rw [hp, hq] at hnext
    have hlt : r.length < (c :: s).length := Nat.lt_succ_of_le hlen
    cases hnext with
    | alike =>
      rcases o with _ | l
      · exact .skip hp hq (ih _ hlt stack r rfl)
      by_cases hl : ∃ f, l = bad f
      · obtain ⟨f, rfl⟩ := hl
        exact .bad hp hq
      · exact .take hp hq (fun f hf => hl ⟨f, hf⟩) (ih _ hlt (after stack l) r rfl)
    | fault f => exact .bad hp hq
    | comment hr => exact .comment hp hq hr
    | broken ho ht => exact .broken hp hq ho ht

end Lexeme

namespace Nesting

open Lexeme

/-! ## Patterns for the whole of a text -/

/-- The frame around the group of a pattern for the whole of a text. -/
def anchorFrame : Frame := ⟨.whole, {}, [], [⟨.anchor .textStart, .exactly 0, .place⟩]⟩

/-- What becomes of a pattern between the start and the end of a text. -/
def anchoredResult (r : Result) : Result :=
  ⟨.seqOf [.anchor .textStart, r.node, .anchor .textEnd], r.groups⟩

/-- A pattern comes to the same end in a group that is closed there. -/
theorem State.finish_run_inside {s : State} (hs : s.Rooted) :
    ((s.inside anchorFrame).run [close, textEnd]).bind State.finish =
      s.finish.map anchoredResult := by
  have hrole := hs.role_top
  obtain ⟨⟨role, flags, done, pieces⟩, outer, n, names, widths, limit, ref, globals, loose⟩ := s
  rcases outer with _ | ⟨below, outer⟩
  · obtain rfl : role = .whole := hrole rfl
    have hloop : ∀ m : Node, (Node.seqOf [.anchor .textStart, m, .anchor .textEnd]).hasLoop =
        m.hasLoop := by
      intro m
      simp [Node.seqOf, Node.hasLoop]
    let f : Frame := ⟨.whole, flags, done, pieces⟩
    have hrun : (State.inside anchorFrame ⟨f, [], n, names, widths, limit, ref, globals, loose⟩).run
        [close, textEnd] = .ok ⟨⟨.whole, {}, [], [⟨.anchor .textEnd, .exactly 0, .place⟩,
          ⟨f.node, f.width, .other⟩, ⟨.anchor .textStart, .exactly 0, .place⟩]⟩, [], n, names,
          widths, limit, ref, globals, loose⟩ := rfl
    have hnode : Frame.node ⟨.whole, {}, [], [⟨.anchor .textEnd, .exactly 0, .place⟩,
        ⟨f.node, f.width, .other⟩, ⟨.anchor .textStart, .exactly 0, .place⟩]⟩ =
          Node.seqOf [.anchor .textStart, f.node, .anchor .textEnd] := rfl
    rw [hrun]
    simp only [Except.bind, finish, hnode, hloop, List.isEmpty_nil, Bool.not_true,
      Bool.false_eq_true, if_false]
    cases globals.ascii && globals.unicode
    · cases decide (n ≤ ref) || loose
      · cases globals.template && f.node.hasLoop <;> rfl
      · rfl
    · rfl
  · have hopen : ∃ s : State, (State.inside anchorFrame ⟨⟨role, flags, done, pieces⟩,
        below :: outer, n, names, widths, limit, ref, globals, loose⟩).run [close, textEnd] =
          .ok s ∧ s.outer ≠ [] := by
      refine ⟨_, rfl, ?_⟩
      rcases role with _ | _ | _ | _ | ⟨_ | _, _, _⟩ | _ <;>
        exact List.append_ne_nil_of_right_ne_nil _ (List.cons_ne_nil _ _)
    obtain ⟨s, hrun, houter⟩ := hopen
    rw [hrun]
    simp [Except.bind, finish, houter, Except.map]

variable [Text.CharacterNames]

theorem lexemes_anchored (p : String) :
    Lexeme.ofPattern (anchored p).toList =
      textStart :: opening (.plain {} {}) :: lexemes [false, false] (p.toList ++ closing) := by
  have htext : (anchored p).toList = '\\' :: 'A' :: '(' :: '?' :: ':' :: (p.toList ++ closing) := by
    have hstart : "\\A(?:".toList = ['\\', 'A', '(', '?', ':'] := rfl
    have hend : ")\\Z".toList = closing := rfl
    simp only [anchored, String.toList_append, hstart, hend]
    simp
  rw [ofPattern_eq, htext]
  exact lexemes_step rfl (by simp) (lexemes_step rfl (by simp) rfl)

theorem ofPattern_anchored (p : String) :
    ofPattern (anchored p).toList =
      ((State.inside anchorFrame {}).run
        (lexemes [false, false] (p.toList ++ closing))).bind State.finish := by
  rw [ofPattern_eq_bind, lexemes_anchored]
  rfl

/-- A pattern for the whole of a text is the pattern between the ends of the text, or none,
unless it closes more groups than it opens. -/
theorem ofPattern_anchored_eq {p : String}
    (hopen : openGroups 0 (Lexeme.ofPattern p.toList) ≠ none) :
    ofPattern (anchored p).toList = (ofPattern p.toList).map anchoredResult ∨
      ∃ f, ofPattern (anchored p).toList = .error f := by
  have hstack : openGroups ([] : VerboseStack).length (lexemes [false] p.toList) ≠ none := hopen
  have hinside : lexemes [false, false] p.toList = lexemes [false] p.toList :=
    lexemes_append [false] hstack
  obtain ⟨front, ls, ls', hls, hls', hends⟩ := prolongs [false, false] p.toList
  rw [hinside] at hls
  have hfront : openGroups 0 front ≠ none := by
    rw [ofPattern_eq, hls] at hopen
    exact openGroups_of_append hopen
  rw [ofPattern_anchored, ofPattern_eq_bind, ofPattern_eq, hls, hls', State.run_append,
    State.run_append]
  rcases State.run_inside (s := {}) hfront with h | h
  · rw [h]
    cases hrun : State.run {} front with
    | error f => exact .inl rfl
    | ok s =>
      have hrooted : s.Rooted := State.Rooted.run (s := {}) rfl hrun
      show ((s.inside anchorFrame).run ls').bind State.finish =
        ((s.run ls).bind State.finish).map anchoredResult ∨
          ∃ f, ((s.inside anchorFrame).run ls').bind State.finish = .error f
      cases hends with
      | complete => exact .inl (State.finish_run_inside hrooted)
      | fault f => exact .inl rfl
      | broken _ hclose =>
        exact .inr (State.finish_run_of_outer_ne_nil (by simp [State.inside]) hclose)
  · rw [h.2]
    exact .inr ⟨_, rfl⟩

end Nesting

end ProxyMaps.Regex
