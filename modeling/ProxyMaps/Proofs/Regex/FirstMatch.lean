/-
The first of some texts that a pattern matches as a whole, against asking for
each text whether the pattern matches it. The one compiles the pattern once, the
other for every text and at a moment of its own, when the cache has been asked
for other things. The answers agree all the same (`firstMatch_agrees`), since a
cache never answers with another pattern than that of the text.
-/
import ProxyMaps.Proofs.Regex.Cache

namespace ProxyMaps.Regex

/-- A text is the first of some texts that is taken, or the empty text if none of them is. -/
inductive FirstTaken (taken : String → Prop) (values : List String) : String → Prop where
  | found {front back : List String} {v : String} (hvalues : values = front ++ v :: back)
      (hv : taken v) (hfront : ∀ w ∈ front, ¬ taken w) : FirstTaken taken values v
  | missing (h : ∀ w ∈ values, ¬ taken w) : FirstTaken taken values ""

section FirstTaken

variable {taken : String → Prop} {values : List String} {v w : String}

theorem firstTaken_find? {test : String → Bool} (htest : ∀ s, test s = true ↔ taken s) :
    FirstTaken taken values ((values.find? test).getD "") := by
  cases hfind : values.find? test with
  | none =>
    refine .missing fun w hw htaken => ?_
    exact List.find?_eq_none.1 hfind w hw ((htest w).2 htaken)
  | some v =>
    obtain ⟨hv, front, back, hvalues, hfront⟩ := List.find?_eq_some_iff_append.1 hfind
    refine .found hvalues ((htest v).1 hv) fun w hw htaken => ?_
    have hno := hfront w hw
    rw [(htest w).2 htaken] at hno
    cases hno

theorem FirstTaken.eq_find? {test : String → Bool} (htest : ∀ s, test s = true ↔ taken s)
    (h : FirstTaken taken values v) : v = (values.find? test).getD "" := by
  cases h with
  | @found front back _ hvalues hv hfront =>
    have hfind : values.find? test = some v := by
      refine List.find?_eq_some_iff_append.2 ⟨(htest v).2 hv, front, back, hvalues, fun w hw => ?_⟩
      simpa [← htest] using hfront w hw
    rw [hfind, Option.getD_some]
  | missing h =>
    have hfind : values.find? test = none :=
      List.find?_eq_none.2 fun w hw htaken => h w hw ((htest w).1 htaken)
    rw [hfind, Option.getD_none]

end FirstTaken

namespace Cache

theorem orMalformed_error {α : Type} {f : Fault} (hf : f ≠ .malformed) (default : α) :
    orMalformed default (.error f) = .error f := by
  cases f with
  | malformed => exact absurd rfl hf
  | repetitionTooLarge | numberTooLong | flagConflict => rfl

variable [Text.CharacterNames]

/-- A cache answers every question about a pattern by one and the same test. -/
structure AnswersBy (c : Cache) (pattern : String) (test : String → Bool) : Prop where
  whole : ∀ s, ((Cache.matchesAll pattern s).run c).1 = .ok (test s)
  first : ∀ values, ((Cache.firstMatch pattern values).run c).1 =
    .ok ((values.find? test).getD "")

/-- A cache has one fault for every question about a pattern. -/
structure FailsWith (c : Cache) (pattern : String) (f : Fault) : Prop where
  whole : ∀ s, ((Cache.matchesAll pattern s).run c).1 = .error f
  first : ∀ values, ((Cache.firstMatch pattern values).run c).1 = .error f

/-- The test for a pattern, or the fault, is the same for all faithful caches. -/
theorem answersBy_or_failsWith (pattern : String) :
    (∃ test, ∀ c : Cache, c.Faithful → c.AnswersBy pattern test) ∨
      ∃ f, ∀ c : Cache, c.Faithful → c.FailsWith pattern f := by
  cases hcompile : Pattern.compile (anchored pattern) with
  | ok p =>
    refine .inl ⟨p.matchesIn, fun c hc => ⟨fun s => ?_, fun values => ?_⟩⟩
    · rw [hc.matchesAll, hcompile]
      rfl
    · rw [hc.firstMatch, hcompile]
      rfl
  | error f =>
    by_cases hf : f = .malformed
    · -- a pattern that breaks the grammar takes no text
      subst hf
      refine .inl ⟨fun _ => false, fun c hc => ⟨fun s => ?_, fun values => ?_⟩⟩
      · rw [hc.matchesAll, hcompile]
        rfl
      · have hnone : values.find? (fun _ => false) = none := List.find?_eq_none.2 (by simp)
        rw [hc.firstMatch, hcompile, hnone]
        rfl
    · refine .inr ⟨f, fun c hc => ⟨fun s => ?_, fun values => ?_⟩⟩
      · rw [hc.matchesAll, hcompile]
        exact orMalformed_error hf false
      · rw [hc.firstMatch, hcompile]
        exact orMalformed_error hf ""

/-- **First matches agree with matches.** Whatever the cache was asked before, and
before each question whether the pattern matches a text: asking for the first
match has a fault exactly if such a question has it, which then all of them have.
Else it is answered with the first of the texts, in their order, that the pattern
is said to match, and with the empty text if it is said to match none. -/
theorem firstMatch_agrees (pattern : String) (values : List String) (before : List Request)
    (moments : String → List Request) :
    let first := ((Cache.firstMatch pattern values).run (after before)).1
    let whole := fun s => ((Cache.matchesAll pattern s).run (after (moments s))).1
    (∀ f s, first = .error f ↔ whole s = .error f) ∧
    ∀ v, first = .ok v ↔
      (∀ s, ∃ b, whole s = .ok b) ∧ FirstTaken (fun s => whole s = .ok true) values v := by
  intro first whole
  rcases answersBy_or_failsWith pattern with ⟨test, hanswers⟩ | ⟨f, hfails⟩
  · have hfirst : first = .ok ((values.find? test).getD "") :=
      (hanswers _ (faithful_after before)).first values
    have hwhole : ∀ s, whole s = .ok (test s) := fun s =>
      (hanswers _ (faithful_after (moments s))).whole s
    have htest : ∀ s, test s = true ↔ whole s = .ok true := fun s => by simp [hwhole]
    refine ⟨fun f s => by simp [hfirst, hwhole], fun v => ?_⟩
    rw [hfirst, Except.ok.injEq]
    constructor
    · rintro rfl
      exact ⟨fun s => ⟨test s, hwhole s⟩, firstTaken_find? htest⟩
    · rintro ⟨-, hv⟩
      exact (hv.eq_find? htest).symm
  · have hfirst : first = .error f := (hfails _ (faithful_after before)).first values
    have hwhole : ∀ s, whole s = .error f := fun s => (hfails _ (faithful_after (moments s))).whole s
    refine ⟨fun g s => by simp [hfirst, hwhole], fun v => ?_⟩
    simp [hfirst, hwhole]

end Cache

end ProxyMaps.Regex
