/-
What a cache of patterns answers, whatever it was asked before: what is stored
for a text is always the pattern of that text (`Cache.Faithful`), so the
answers are those of the patterns themselves.
-/
import ProxyMaps.Regex.Cache

namespace ProxyMaps.Regex.Cache

variable [Text.CharacterNames]

/-- What a cache is asked for. -/
inductive Request where
  | compile (text : String)
  | contains (text : String)
  | search (pattern s : String)
  | matchesIn (pattern s : String)
  | matchesAll (pattern s : String)
  | firstMatch (pattern : String) (values : List String)
  | resetCounters

/-- The cache behind a request. -/
def Request.perform (c : Cache) : Request → Cache
  | .compile text => ((Cache.compile text).run c).2
  | .contains _ => c
  | .search pattern s => ((Cache.search pattern s).run c).2
  | .matchesIn pattern s => ((Cache.matchesIn pattern s).run c).2
  | .matchesAll pattern s => ((Cache.matchesAll pattern s).run c).2
  | .firstMatch pattern values => ((Cache.firstMatch pattern values).run c).2
  | .resetCounters => (Cache.resetCounters.run c).2

/-- The cache behind requests to a new one. -/
def after (requests : List Request) : Cache := requests.foldl Request.perform {}

/-- Everything that is stored is the pattern of the text that it is stored for. -/
def Faithful (c : Cache) : Prop :=
  ∀ text s, c.stored.find? text = some s → Pattern.compile text = .ok s.pattern

theorem faithful_new : Faithful {} := by
  intro text s h
  cases h

/-- A faithful cache gives the pattern of a text, and stays faithful. -/
theorem Faithful.compile {c : Cache} (hc : c.Faithful) (text : String) :
    ((Cache.compile text).run c).1.map Stored.pattern = Pattern.compile text ∧
      ((Cache.compile text).run c).2.Faithful := by
  simp only [StateT.run, Cache.compile]
  cases hf : c.stored.find? text with
  | some s => exact ⟨(hc text s hf).symm, hc⟩
  | none =>
    dsimp only
    cases hp : Pattern.compile text with
    | error f => exact ⟨rfl, hc⟩
    | ok p =>
      refine ⟨rfl, fun text' s hs => ?_⟩
      rw [Table.find?_insert] at hs
      split at hs
      next h =>
        cases hs
        exact h ▸ hp
      · exact hc text' s hs

theorem Faithful.perform {c : Cache} (hc : c.Faithful) (r : Request) : (r.perform c).Faithful := by
  cases r with
  | compile text => exact (hc.compile text).2
  | contains text => exact hc
  | search pattern s | matchesIn pattern s => exact (hc.compile pattern).2
  | matchesAll pattern s | firstMatch pattern values => exact (hc.compile (anchored pattern)).2
  | resetCounters => exact hc

theorem faithful_after (requests : List Request) : (after requests).Faithful := by
  have hfold : ∀ c : Cache, c.Faithful → (requests.foldl Request.perform c).Faithful := by
    induction requests with
    | nil => exact fun c hc => hc
    | cons r rs ih => exact fun c hc => ih _ (hc.perform r)
  exact hfold {} faithful_new

theorem Faithful.matchesIn {c : Cache} (hc : c.Faithful) (pattern s : String) :
    ((Cache.matchesIn pattern s).run c).1 =
      (Pattern.compile pattern).map fun p => p.matchesIn s := by
  rw [← (hc.compile pattern).1]
  show (((Cache.compile pattern).run c).1.map _).map _ = _
  cases ((Cache.compile pattern).run c).1 <;> rfl

theorem Faithful.matchesAll {c : Cache} (hc : c.Faithful) (pattern s : String) :
    ((Cache.matchesAll pattern s).run c).1 =
      orMalformed false ((Pattern.compile (anchored pattern)).map fun p => p.matchesIn s) :=
  congrArg (orMalformed false) (hc.matchesIn (anchored pattern) s)

theorem Faithful.firstMatch {c : Cache} (hc : c.Faithful) (pattern : String)
    (values : List String) :
    ((Cache.firstMatch pattern values).run c).1 =
      orMalformed "" ((Pattern.compile (anchored pattern)).map fun p =>
        (values.find? p.matchesIn).getD "") := by
  rw [← (hc.compile (anchored pattern)).1]
  show orMalformed "" (((Cache.compile (anchored pattern)).run c).1.map _) = _
  cases ((Cache.compile (anchored pattern)).run c).1 <;> rfl

/-- **Transparency.** Whatever a cache was asked before, it answers as a new
one does, with the same matches and the same faults. -/
theorem answers_as_new (requests : List Request) :
    (∀ pattern s, ((Cache.matchesIn pattern s).run (after requests)).1 =
      ((Cache.matchesIn pattern s).run {}).1) ∧
    (∀ pattern s, ((Cache.matchesAll pattern s).run (after requests)).1 =
      ((Cache.matchesAll pattern s).run {}).1) ∧
    ∀ pattern values, ((Cache.firstMatch pattern values).run (after requests)).1 =
      ((Cache.firstMatch pattern values).run {}).1 := by
  have hafter : (after requests).Faithful := faithful_after requests
  refine ⟨fun pattern s => ?_, fun pattern s => ?_, fun pattern values => ?_⟩
  · rw [hafter.matchesIn, faithful_new.matchesIn]
  · rw [hafter.matchesAll, faithful_new.matchesAll]
  · rw [hafter.firstMatch, faithful_new.firstMatch]

end ProxyMaps.Regex.Cache
