/-
The books of a cache of patterns, over any history of requests to a new one.

Each request compiles one text or none (`Request.text?`), and `compile_cases`
says all that compiling can do: find a text, fail, or store a new pattern as
the last. Patterns are numbered as they are stored (`Numbered`), so the number
of a pattern tells it from any other that was ever stored.
-/
import Mathlib.Data.List.DropRight
import ProxyMaps.Proofs.History
import ProxyMaps.Proofs.Regex.WholeText
import ProxyMaps.Proofs.Table

namespace ProxyMaps.Regex.Cache

/-! ## One request -/

/-- The text that a request compiles, if it compiles one. -/
def Request.text? : Request → Option String
  | .compile text | .search text _ | .matchesIn text _ => some text
  | .matchesAll pattern _ | .firstMatch pattern _ => some (anchored pattern)
  | .contains _ | .resetCounters => none

/-- Whether a request sets the counters to zero. -/
def Request.resets : Request → Bool
  | .resetCounters => true
  | _ => false

/-- A request with the cache that it meets. -/
abbrev Step := Cache × Request

/-- Whether a step compiles a text that is not stored when it is asked for. -/
def Step.isMiss (s : Step) : Bool := s.2.text?.any fun text => !s.1.contains text

section

variable {c : Cache} {r : Request} {text : String}

theorem entries_insert_of_new {x : Stored} (h : c.stored.find? text = none) :
    (c.stored.insert text x).entries = c.stored.entries ++ [(text, x)] :=
  Table.entries_insert_of_notMem (Table.find?_eq_none_iff.1 h) x

/-- Patterns have the numbers of the places at which they are stored. -/
def Numbered (c : Cache) : Prop :=
  ∀ i (h : i < c.stored.entries.length), c.stored.entries[i].2.serial = i

theorem numbered_new : Numbered {} := fun _ h => absurd h (Nat.not_lt_zero _)

/-- Two stored patterns with one number are one, and stored for one text. -/
theorem Numbered.inj (hc : c.Numbered) {text text' : String} {x x' : Stored}
    (h : (text, x) ∈ c.stored.entries) (h' : (text', x') ∈ c.stored.entries)
    (hserial : x.serial = x'.serial) : text = text' := by
  obtain ⟨i, hi, heq⟩ := List.getElem_of_mem h
  obtain ⟨j, hj, heq'⟩ := List.getElem_of_mem h'
  have hij : i = j := by
    rw [← hc i hi, ← hc j hj, heq, heq']
    exact hserial
  subst hij
  exact congrArg Prod.fst (heq.symm.trans heq')

variable [Text.CharacterNames]

/-- A step asks for the pattern of a text, with an answer. -/
def Step.Compiles (s : Step) (text : String) (answer : Except Fault Stored) : Prop :=
  s.2.text? = some text ∧ ((Cache.compile text).run s.1).1 = answer

theorem compile_cases (c : Cache) (text : String) :
    (∃ x, c.stored.find? text = some x ∧
      (Cache.compile text).run c = (.ok x, { c with hits := c.hits + 1 })) ∨
    c.stored.find? text = none ∧
      ((∃ f, (Cache.compile text).run c = (.error f, { c with misses := c.misses + 1 })) ∨
        ∃ p, (Cache.compile text).run c = (.ok ⟨p, c.size⟩, { c with
          stored := c.stored.insert text ⟨p, c.size⟩, misses := c.misses + 1 })) := by
  simp only [StateT.run, Cache.compile]
  cases c.stored.find? text with
  | some x => exact .inl ⟨x, rfl, rfl⟩
  | none =>
    refine .inr ⟨rfl, ?_⟩
    cases Pattern.compile text with
    | error f => exact .inl ⟨f, rfl⟩
    | ok p => exact .inr ⟨p, rfl⟩

/-- A request that compiles a text leaves what compiling the text leaves. -/
theorem perform_of_text (h : r.text? = some text) :
    r.perform c = ((Cache.compile text).run c).2 := by
  cases r <;> cases h <;> rfl

/-- A request that compiles nothing sets the counters to zero or changes nothing. -/
theorem perform_of_no_text (h : r.text? = none) :
    r.perform c = if r.resets then { c with hits := 0, misses := 0 } else c := by
  cases r with
  | contains _ | resetCounters => rfl
  | compile _ | search _ _ | matchesIn _ _ | matchesAll _ _ | firstMatch _ _ => cases h

/-! ### What is stored -/

/-- All that a request can do to what is stored. -/
theorem stored_perform_cases (c : Cache) (r : Request) :
    (r.perform c).stored = c.stored ∨
      ∃ text p, r.text? = some text ∧ c.stored.find? text = none ∧
        ((Cache.compile text).run c).1 = .ok ⟨p, c.size⟩ ∧
        (r.perform c).stored = c.stored.insert text ⟨p, c.size⟩ := by
  cases htext : r.text? with
  | none =>
    rw [perform_of_no_text htext]
    split <;> exact .inl rfl
  | some text =>
    rw [perform_of_text htext]
    rcases compile_cases c text with ⟨x, -, hrun⟩ | ⟨hnew, ⟨f, hrun⟩ | ⟨p, hrun⟩⟩
    · exact .inl (by rw [hrun])
    · exact .inl (by rw [hrun])
    · exact .inr ⟨text, p, rfl, hnew, by rw [hrun], by rw [hrun]⟩

/-- Nothing is taken out, and nothing is stored in the place of another pattern. -/
theorem entries_prefix_perform (c : Cache) (r : Request) :
    c.stored.entries <+: (r.perform c).stored.entries := by
  rcases stored_perform_cases c r with hsame | ⟨text, p, -, hnew, -, hstored⟩
  · exact hsame ▸ List.prefix_rfl
  · rw [hstored, entries_insert_of_new hnew]
    exact List.prefix_append _ _

theorem Numbered.perform (hc : c.Numbered) (r : Request) : (r.perform c).Numbered := by
  unfold Numbered
  rcases stored_perform_cases c r with hsame | ⟨text, p, -, hnew, -, hstored⟩
  · rw [hsame]
    exact hc
  · rw [hstored, entries_insert_of_new hnew]
    intro i h
    rw [List.getElem_append]
    split
    next hi => exact hc i hi
    next hi =>
      rw [List.length_append, List.length_singleton] at h
      have hlast : i = c.size := Nat.le_antisymm (Nat.le_of_lt_succ h) (Nat.le_of_not_lt hi)
      rw [List.getElem_singleton, hlast]

/-- A pattern that is answered for a text is stored for it from then on. -/
theorem mem_entries_of_compiles {x : Stored} (h : Step.Compiles (c, r) text (.ok x)) :
    (text, x) ∈ (r.perform c).stored.entries := by
  obtain ⟨htext, hanswer⟩ := h
  rw [perform_of_text htext]
  rw [← Table.find?_eq_some_iff]
  rcases compile_cases c text with ⟨y, hfind, hrun⟩ | ⟨-, ⟨f, hrun⟩ | ⟨p, hrun⟩⟩
  all_goals
    rw [hrun] at hanswer ⊢
    cases hanswer
  · exact hfind
  · rw [Table.find?_insert, if_pos rfl]

theorem contains_perform_iff : (r.perform c).contains text = true ↔
    c.contains text = true ∨ ∃ x, Step.Compiles (c, r) text (.ok x) := by
  simp only [contains, Table.contains_iff_mem_keys]
  constructor
  · intro h
    rcases stored_perform_cases c r with hsame | ⟨text', p, htext, -, hrun, hstored⟩
    · exact .inl (hsame ▸ h)
    · rw [hstored, Table.keys_insert] at h
      split at h
      · exact .inl h
      · rcases List.mem_append.1 h with h | h
        · exact .inl h
        · cases List.mem_singleton.1 h
          exact .inr ⟨_, htext, hrun⟩
  · rintro (h | ⟨x, h⟩)
    · exact ((entries_prefix_perform c r).map Prod.fst).subset h
    · exact List.mem_map_of_mem (mem_entries_of_compiles h)

theorem stored_perform_of_error {f : Fault} (h : Step.Compiles (c, r) text (.error f)) :
    (r.perform c).stored = c.stored := by
  obtain ⟨htext, hanswer⟩ := h
  rcases stored_perform_cases c r with hsame | ⟨text', p, htext', -, hrun, -⟩
  · exact hsame
  · cases htext.symm.trans htext'
    cases hanswer.symm.trans hrun

/-! ### What is counted -/

theorem counters_perform (c : Cache) (r : Request) :
    (r.perform c).hits + (r.perform c).misses =
        (if r.resets then 0 else c.hits + c.misses) + (if r.text?.isSome then 1 else 0) ∧
      (r.perform c).misses =
        (if r.resets then 0 else c.misses) + (if Step.isMiss (c, r) then 1 else 0) := by
  cases htext : r.text? with
  | none =>
    rw [perform_of_no_text htext]
    simp only [Step.isMiss, htext]
    split <;> exact ⟨rfl, rfl⟩
  | some text =>
    have hmiss : Step.isMiss (c, r) = !c.contains text := by rw [Step.isMiss, htext, Option.any_some]
    have hkeeps : r.resets = false := by
      cases r with
      | resetCounters => cases htext
      | _ => rfl
    rw [perform_of_text htext, hkeeps, hmiss]
    rcases compile_cases c text with ⟨x, hfind, hrun⟩ | ⟨hnew, hrun⟩
    · have hstored : c.contains text = true := by
        rw [contains, Table.contains_eq_isSome, hfind, Option.isSome_some]
      rw [hrun, hstored]
      exact ⟨Nat.add_right_comm _ _ _, rfl⟩
    · rw [contains, Table.contains_eq_false_iff.2 hnew]
      rcases hrun with ⟨f, hrun⟩ | ⟨p, hrun⟩
      all_goals
        rw [hrun]
        exact ⟨rfl, rfl⟩

end

/-! ## A history of requests -/

section

variable [Text.CharacterNames]

/-- The steps of a history that begins with a new cache. -/
def steps (requests : List Request) : List Step := History.steps Request.perform {} requests

/-- The steps since the counters were last set to zero. -/
def recentSteps (requests : List Request) : List Step :=
  (steps requests).rtakeWhile fun s => !s.2.resets

theorem steps_concat (requests : List Request) (r : Request) :
    steps (requests ++ [r]) = steps requests ++ [(after requests, r)] :=
  History.steps_concat _ requests r

theorem after_concat (requests : List Request) (r : Request) :
    after (requests ++ [r]) = r.perform (after requests) :=
  List.foldl_concat Request.perform {} r requests

theorem numbered_after (requests : List Request) : (after requests).Numbered :=
  List.foldlRecOn requests Request.perform numbered_new fun _ hc r _ => hc.perform r

theorem entries_prefix_after {requests : List Request} {s : Step} (hs : s ∈ steps requests) :
    s.1.stored.entries <+: (after requests).stored.entries ∧
      (s.2.perform s.1).stored.entries <+: (after requests).stored.entries :=
  History.rel_foldl (R := fun c c' => c.stored.entries <+: c'.stored.entries)
    (fun _ => List.prefix_rfl) List.IsPrefix.trans entries_prefix_perform hs

theorem mem_entries_after {requests : List Request} {s : Step} {text : String} {x : Stored}
    (hs : s ∈ steps requests) (h : s.Compiles text (.ok x)) :
    (text, x) ∈ (after requests).stored.entries :=
  (entries_prefix_after hs).2.subset (mem_entries_of_compiles h)

/-- What is stored is what was compiled with success. -/
theorem contains_after_iff (requests : List Request) (text : String) :
    (after requests).contains text = true ↔
      ∃ s ∈ steps requests, ∃ x, s.Compiles text (.ok x) := by
  induction requests using List.reverseRecOn with
  | nil => simp [after, steps, History.steps, contains, Table.contains, Table.keys, Table.empty]
  | append_singleton requests r ih =>
    rw [after_concat, contains_perform_iff, ih, steps_concat]
    simp only [List.mem_append, List.mem_singleton, or_and_right, exists_or, exists_eq_left]

/-- The counters count the steps since they were last set to zero. -/
theorem counters_after (requests : List Request) :
    (after requests).hits + (after requests).misses =
        (recentSteps requests).countP (fun s => s.2.text?.isSome) ∧
      (after requests).misses = (recentSteps requests).countP Step.isMiss := by
  induction requests using List.reverseRecOn with
  | nil => exact ⟨rfl, rfl⟩
  | append_singleton requests r ih =>
    obtain ⟨hcalls, hmisses⟩ := counters_perform (after requests) r
    rw [after_concat, hcalls, hmisses, recentSteps, steps_concat, List.rtakeWhile_concat]
    cases hresets : r.resets with
    | true =>
      have htext : r.text? = none := by
        cases r with
        | resetCounters => rfl
        | _ => cases hresets
      simp [htext, Step.isMiss]
    | false =>
      rw [ih.1, ih.2, recentSteps]
      simp [List.countP_append, List.countP_singleton]

/-- A pattern that is answered for a text has it as its text. -/
theorem text_of_mem_entries {requests : List Request} {text : String} {x : Stored}
    (h : (text, x) ∈ (after requests).stored.entries) : x.pattern.text = text :=
  (compile_eq_ok_iff.1 (faithful_after requests text x (Table.find?_eq_some_iff.2 h))).1

/-- **Bookkeeping.** Over any history what is stored is what was compiled with
success. Nothing that a step found stored is lost or replaced, and a failure
stores nothing. A text is always answered with one pattern, which has it as its
text, and different texts with different ones. The two counters together count
the requests that compiled a text since they were last set to zero, and the
misses those of them whose text was not stored when they were made. -/
theorem history_kept_and_counted (requests : List Request) :
    (∀ text, (after requests).contains text = true ↔
      ∃ s ∈ steps requests, ∃ x, s.Compiles text (.ok x)) ∧
    (∀ s ∈ steps requests, s.1.stored.entries <+: (after requests).stored.entries ∧
      (∀ text f, s.Compiles text (.error f) → (s.2.perform s.1).stored = s.1.stored) ∧
      (∀ text, s.2 = .contains text → s.2.perform s.1 = s.1) ∧
      (s.2 = .resetCounters → (s.2.perform s.1).stored = s.1.stored)) ∧
    (∀ s ∈ steps requests, ∀ s' ∈ steps requests, ∀ text text' x x',
      s.Compiles text (.ok x) → s'.Compiles text' (.ok x') →
        x.pattern.text = text ∧ (text = text' → x = x') ∧ (x.serial = x'.serial → text = text')) ∧
    (after requests).hits + (after requests).misses =
      (recentSteps requests).countP (fun s => s.2.text?.isSome) ∧
    (after requests).misses = (recentSteps requests).countP Step.isMiss := by
  refine ⟨contains_after_iff requests, fun s hs => ?_, fun s hs s' hs' text text' x x' h h' => ?_,
    counters_after requests⟩
  · refine ⟨(entries_prefix_after hs).1, fun _ _ => stored_perform_of_error,
      fun text h => ?_, fun h => ?_⟩
    · rw [h]
      rfl
    · rw [h]
      rfl
  · have hx := mem_entries_after hs h
    have hx' := mem_entries_after hs' h'
    refine ⟨text_of_mem_entries hx, ?_, (numbered_after requests).inj hx hx'⟩
    rintro rfl
    exact Option.some.inj
      ((Table.find?_eq_some_iff.2 hx).symm.trans (Table.find?_eq_some_iff.2 hx'))

end

theorem history_kept_and_counted_reset :
    let requests : List Request := [.compile "a(", .compile "a+", .search "a+" "baa",
      .contains "b", .resetCounters, .compile "a(", .matchesIn "a+" "b", .compile "b"]
    let first : Step := (after [.compile "a("], .compile "a+")
    let later : Step := (after (requests.take 6), .matchesIn "a+" "b")
    first ∈ steps requests ∧ later ∈ steps requests ∧
      ∃ x x', first.Compiles "a+" (.ok x) ∧ later.Compiles "a+" (.ok x') ∧ x = x' ∧
        (after requests).contains "a(" = false ∧ (after requests).hits = 1 ∧
        (after requests).misses = 2 := by
  intro requests first later
  have hfirst : first ∈ steps requests := .tail _ (.head _)
  have hlater : later ∈ steps requests :=
    .tail _ (.tail _ (.tail _ (.tail _ (.tail _ (.tail _ (.head _))))))
  obtain ⟨x, hx⟩ : ∃ x, first.Compiles "a+" (.ok x) := ⟨_, rfl, rfl⟩
  obtain ⟨x', hx'⟩ : ∃ x', later.Compiles "a+" (.ok x') := ⟨_, rfl, rfl⟩
  obtain ⟨-, -, hsame, hcalls, hmisses⟩ := history_kept_and_counted requests
  have hrecent : (recentSteps requests).countP (fun s => s.2.text?.isSome) = 3 := by decide
  have hmissed : (recentSteps requests).countP Step.isMiss = 2 := by decide
  refine ⟨hfirst, hlater, x, x', hx, hx', (hsame _ hfirst _ hlater _ _ _ _ hx hx').2.1 rfl,
    by decide, ?_, hmisses.trans hmissed⟩
  omega

end ProxyMaps.Regex.Cache
