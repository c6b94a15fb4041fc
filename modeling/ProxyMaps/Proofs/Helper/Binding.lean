/-
Calls by position. The arguments go to the parameters from the left, those that
are left over to the parameter that takes the rest, and a parameter without an
argument has its default (`Signature.Binds`). Of a legal signature this comes to
two conditions (`exists_binds_iff`): no parameter needs a name, and the number of
arguments is one that the signature counts.

So the arity that a registered helper is given is that of the function itself
(`accepts_iff_canBind`). A signature is refused for more than that no call can
succeed, though: a parameter for all arguments by name is taken for one that
needs a name (`refused_iff_uncallable_iff`).
-/
import Mathlib.Data.List.Find
import ProxyMaps.Proofs.Helper.Registry

namespace ProxyMaps.Helper

namespace ParameterKind

/-- The place of a kind in the order of kinds. -/
def place : ParameterKind → Nat
  | positionalOnly => 0
  | positional => 1
  | varPositional => 2
  | keywordOnly => 3
  | varKeyword => 4

/-- Whether a parameter of a kind takes all arguments that are left. -/
def collects : ParameterKind → Bool
  | varPositional | varKeyword => true
  | _ => false

end ParameterKind

namespace Parameter

/-- Whether only a name can reach a parameter, which has no default. -/
def needsName (p : Parameter) : Bool := p.kind = .keywordOnly && !p.hasDefault

/-- Whether all arguments by name that are left reach a parameter. -/
def takesNames (p : Parameter) : Bool := p.kind = .varKeyword

end Parameter

/-- What a parameter has in a call. -/
inductive Filling (α : Type) where
  | argument (a : α)
  /-- The arguments that are left. -/
  | rest (as : List α)
  | default
  /-- The arguments by name, of which there are none. -/
  | noNames
  deriving Repr

namespace Signature

/-- The signatures that functions can have. -/
structure Legal (s : Signature) : Prop where
  /-- No two parameters have one name. -/
  names : (s.map Parameter.name).Nodup
  /-- The kinds come in order. -/
  order : s.Pairwise fun p q => p.kind.place ≤ q.kind.place
  /-- One parameter at most takes the rest, and one the names that are left. -/
  once : s.Pairwise fun p q => p.kind.collects = true → p.kind ≠ q.kind
  /-- Behind a default, the parameters that an argument by position reaches have defaults. -/
  defaults : s.Pairwise fun p q =>
    p.isPositional = true → p.hasDefault = true → q.isRequired = false
  /-- What takes all that is left has no default. -/
  plain : ∀ p ∈ s, p.kind.collects = true → p.hasDefault = false

instance : DecidablePred Legal := fun s =>
  decidable_of_iff
    ((s.map Parameter.name).Nodup ∧ s.Pairwise (fun p q => p.kind.place ≤ q.kind.place) ∧
      s.Pairwise (fun p q => p.kind.collects = true → p.kind ≠ q.kind) ∧
      s.Pairwise (fun p q => p.isPositional = true → p.hasDefault = true →
        q.isRequired = false) ∧
      ∀ p ∈ s, p.kind.collects = true → p.hasDefault = false)
    ⟨fun ⟨h₁, h₂, h₃, h₄, h₅⟩ => ⟨h₁, h₂, h₃, h₄, h₅⟩,
      fun ⟨h₁, h₂, h₃, h₄, h₅⟩ => ⟨h₁, h₂, h₃, h₄, h₅⟩⟩

/-- A call with some arguments by position succeeds, and its parameters have what is listed. -/
inductive Binds {α : Type} : Signature → List α → List (Filling α) → Prop where
  | done : Binds [] [] []
  /-- The next argument goes to the next parameter. -/
  | argument {p : Parameter} {s : Signature} {a : α} {as : List α} {fs : List (Filling α)}
      (hp : p.isPositional = true) (h : Binds s as fs) : Binds (p :: s) (a :: as) (.argument a :: fs)
  /-- No argument is left. -/
  | omitted {p : Parameter} {s : Signature} {fs : List (Filling α)} (hp : p.isPositional = true)
      (hd : p.hasDefault = true) (h : Binds s [] fs) : Binds (p :: s) [] (.default :: fs)
  | rest {p : Parameter} {s : Signature} {as : List α} {fs : List (Filling α)}
      (hp : p.takesRest = true) (h : Binds s [] fs) : Binds (p :: s) as (.rest as :: fs)
  /-- No argument is given by name. -/
  | byName {p : Parameter} {s : Signature} {as : List α} {fs : List (Filling α)}
      (hp : p.kind = .keywordOnly) (hd : p.hasDefault = true) (h : Binds s as fs) :
      Binds (p :: s) as (.default :: fs)
  | noNames {p : Parameter} {s : Signature} {as : List α} {fs : List (Filling α)}
      (hp : p.takesNames = true) (h : Binds s as fs) : Binds (p :: s) as (.noNames :: fs)

/-- A call with a number of arguments by position succeeds. -/
def CanBind (s : Signature) (n : Nat) : Prop := ∃ fs, s.Binds (List.range n) fs

namespace Legal

variable {p : Parameter} {s : Signature}

theorem tail (h : Legal (p :: s)) : s.Legal where
  names := (List.nodup_cons.1 h.names).2
  order := h.order.of_cons
  once := h.once.of_cons
  defaults := h.defaults.of_cons
  plain q hq := h.plain q (List.mem_cons_of_mem p hq)

/-- Nothing behind the parameter for the rest is reached by position. -/
theorem countP_isPositional (h : Legal (p :: s)) (hp : p.takesRest = true) :
    s.countP Parameter.isPositional = 0 := by
  rw [List.countP_eq_zero]
  intro q hq hpos
  have hkind : p.kind = .varPositional := of_decide_eq_true hp
  have hle : p.kind.place ≤ q.kind.place := List.rel_of_pairwise_cons h.order hq
  rw [hkind] at hle
  cases hq : q.kind <;> simp [Parameter.isPositional, ParameterKind.place, hq] at hpos hle

theorem countP_isRequired (h : Legal (p :: s)) (hp : p.isPositional = true)
    (hd : p.hasDefault = true) : s.countP Parameter.isRequired = 0 := by
  rw [List.countP_eq_zero]
  intro q hq hrequired
  have hno : q.isRequired = false := List.rel_of_pairwise_cons h.defaults hq hp hd
  exact Bool.false_ne_true (hno.symm.trans hrequired)

end Legal

/-! ## Which calls succeed -/

section Takes

variable {p : Parameter} {s : Signature}

theorem countP_isRequired_le (s : Signature) :
    s.countP Parameter.isRequired ≤ s.countP Parameter.isPositional :=
  List.countP_mono_left fun _ _ h => (Bool.and_eq_true_iff.1 h).1

theorem takes_iff {n : Int} : s.Takes n ↔
    s.countP Parameter.isRequired ≤ n ∧
      (s.any Parameter.takesRest = true ∨ n ≤ s.countP Parameter.isPositional) :=
  ⟨fun h => ⟨h.least, h.most⟩, fun h => ⟨h.1, h.2⟩⟩

theorem Legal.takes_argument (h : Legal (p :: s)) (hp : p.isPositional = true) (n : Nat) :
    Takes (p :: s) (n + 1 : Nat) ↔ s.Takes n := by
  have hrest : p.takesRest = false := by
    cases hk : p.kind <;> simp [Parameter.isPositional, Parameter.takesRest, hk] at hp ⊢
  rw [takes_iff, takes_iff, List.countP_cons, List.countP_cons, List.any_cons, hp, hrest,
    Bool.false_or]
  refine and_congr ?_ (or_congr Iff.rfl (by simp))
  cases hd : p.hasDefault with
  | true =>
    have hnone := h.countP_isRequired hp hd
    have hrequired : p.isRequired = false := by simp [Parameter.isRequired, hd]
    rw [hrequired, hnone]
    simp
    omega
  | false =>
    have hrequired : p.isRequired = true := by simp [Parameter.isRequired, hp, hd]
    rw [hrequired]
    simp

theorem Legal.takes_omitted (h : Legal (p :: s)) (hp : p.isPositional = true) :
    Takes (p :: s) (0 : Nat) ↔ p.hasDefault = true ∧ s.Takes (0 : Nat) := by
  rw [takes_iff, takes_iff, List.countP_cons]
  cases hd : p.hasDefault with
  | true =>
    have hnone := h.countP_isRequired hp hd
    have hrequired : p.isRequired = false := by simp [Parameter.isRequired, hd]
    rw [hrequired, hnone]
    simp
  | false =>
    have hrequired : p.isRequired = true := by simp [Parameter.isRequired, hp, hd]
    rw [hrequired]
    simp

/-- Behind the parameter for the rest no arguments are left. -/
theorem Legal.takes_rest (h : Legal (p :: s)) (hp : p.takesRest = true) (n : Nat) :
    Takes (p :: s) n ↔ s.Takes (0 : Nat) := by
  have hpos : p.isPositional = false := by
    cases hk : p.kind <;> simp [Parameter.isPositional, Parameter.takesRest, hk] at hp ⊢
  have hrequired : p.isRequired = false := by simp [Parameter.isRequired, hpos]
  have hleast : s.countP Parameter.isRequired = 0 := by
    have hle := s.countP_isRequired_le
    have hnone := h.countP_isPositional hp
    omega
  rw [takes_iff, takes_iff, List.countP_cons, List.any_cons, hp, hrequired, hleast]
  simp

theorem takes_named (hp : p.isPositional = false) (hrest : p.takesRest = false) (n : Nat) :
    Takes (p :: s) n ↔ s.Takes n := by
  have hrequired : p.isRequired = false := by simp [Parameter.isRequired, hp]
  simp only [takes_iff, List.countP_cons, List.any_cons, hp, hrest, hrequired]
  simp

end Takes

section Binds

variable {α : Type} {p : Parameter} {s : Signature} {a : α} {as : List α}

theorem exists_binds_nil : (∃ fs, Binds [] as fs) ↔ as = [] := by
  constructor
  · rintro ⟨fs, h⟩
    cases h
    rfl
  · rintro rfl
    exact ⟨[], .done⟩

theorem exists_binds_argument (hp : p.isPositional = true) :
    (∃ fs, Binds (p :: s) (a :: as) fs) ↔ ∃ fs, Binds s as fs := by
  constructor
  · rintro ⟨fs, h⟩
    cases h with
    | argument _ h => exact ⟨_, h⟩
    | rest hr _ | byName hr _ _ | noNames hr _ =>
      cases hk : p.kind <;>
        simp [Parameter.isPositional, Parameter.takesRest, Parameter.takesNames, hk] at hp hr
  · rintro ⟨fs, h⟩
    exact ⟨_, .argument hp h⟩

theorem exists_binds_omitted (hp : p.isPositional = true) :
    (∃ fs, Binds (p :: s) ([] : List α) fs) ↔
      p.hasDefault = true ∧ ∃ fs, Binds s ([] : List α) fs := by
  constructor
  · rintro ⟨fs, h⟩
    cases h with
    | omitted _ hd h => exact ⟨hd, _, h⟩
    | rest hr _ | byName hr _ _ | noNames hr _ =>
      cases hk : p.kind <;>
        simp [Parameter.isPositional, Parameter.takesRest, Parameter.takesNames, hk] at hp hr
  · rintro ⟨hd, fs, h⟩
    exact ⟨_, .omitted hp hd h⟩

theorem exists_binds_rest (hp : p.kind = .varPositional) :
    (∃ fs, Binds (p :: s) as fs) ↔ ∃ fs, Binds s ([] : List α) fs := by
  constructor
  · rintro ⟨fs, h⟩
    cases h with
    | rest _ h => exact ⟨_, h⟩
    | argument hr _ | omitted hr _ _ | byName hr _ _ | noNames hr _ =>
      simp [Parameter.isPositional, Parameter.takesNames, hp] at hr
  · rintro ⟨fs, h⟩
    exact ⟨_, .rest (decide_eq_true hp) h⟩

theorem exists_binds_byName (hp : p.kind = .keywordOnly) :
    (∃ fs, Binds (p :: s) as fs) ↔ p.hasDefault = true ∧ ∃ fs, Binds s as fs := by
  constructor
  · rintro ⟨fs, h⟩
    cases h with
    | byName _ hd h => exact ⟨hd, _, h⟩
    | argument hr _ | omitted hr _ _ | rest hr _ | noNames hr _ =>
      simp [Parameter.isPositional, Parameter.takesRest, Parameter.takesNames, hp] at hr
  · rintro ⟨hd, fs, h⟩
    exact ⟨_, .byName hp hd h⟩

theorem exists_binds_noNames (hp : p.kind = .varKeyword) :
    (∃ fs, Binds (p :: s) as fs) ↔ ∃ fs, Binds s as fs := by
  constructor
  · rintro ⟨fs, h⟩
    cases h with
    | noNames _ h => exact ⟨_, h⟩
    | argument hr _ | omitted hr _ _ | rest hr _ | byName hr _ _ =>
      simp [Parameter.isPositional, Parameter.takesRest, hp] at hr
  · rintro ⟨fs, h⟩
    exact ⟨_, .noNames (decide_eq_true hp) h⟩

/-- A call of a legal signature succeeds if no parameter needs a name and the number of arguments
is one that the signature counts. -/
theorem exists_binds_iff (hs : s.Legal) (as : List α) :
    (∃ fs, s.Binds as fs) ↔ s.any Parameter.needsName = false ∧ s.Takes as.length := by
  induction s generalizing as with
  | nil =>
    rw [exists_binds_nil, takes_iff]
    cases as <;> simp
  | cons p s ih =>
    replace ih := fun as : List α => ih hs.tail as
    rw [List.any_cons, Bool.or_eq_false_iff]
    cases hk : p.kind with
    | positionalOnly | positional =>
      have hp : p.isPositional = true := by simp [Parameter.isPositional, hk]
      have hneeds : p.needsName = false := by simp [Parameter.needsName, hk]
      cases as with
      | nil =>
        rw [exists_binds_omitted hp, ih, List.length_nil, hs.takes_omitted hp]
        simp only [hneeds, true_and]
        exact and_left_comm
      | cons a as =>
        rw [exists_binds_argument hp, ih, List.length_cons, hs.takes_argument hp]
        simp only [hneeds, true_and]
    | varPositional =>
      have hneeds : p.needsName = false := by simp [Parameter.needsName, hk]
      rw [exists_binds_rest hk, ih, List.length_nil, hs.takes_rest (decide_eq_true hk)]
      simp only [hneeds, true_and]
    | keywordOnly =>
      have hneeds : p.needsName = !p.hasDefault := by simp [Parameter.needsName, hk]
      have hp : p.isPositional = false := by simp [Parameter.isPositional, hk]
      have hrest : p.takesRest = false := by simp [Parameter.takesRest, hk]
      rw [exists_binds_byName hk, ih, takes_named hp hrest, hneeds, and_assoc, Bool.not_eq_false']
    | varKeyword =>
      have hneeds : p.needsName = false := by simp [Parameter.needsName, hk]
      have hp : p.isPositional = false := by simp [Parameter.isPositional, hk]
      have hrest : p.takesRest = false := by simp [Parameter.takesRest, hk]
      rw [exists_binds_noNames hk, ih, takes_named hp hrest]
      simp only [hneeds, true_and]

end Binds

theorem canBind_iff {s : Signature} (hs : s.Legal) (n : Nat) :
    s.CanBind n ↔ s.any Parameter.needsName = false ∧ s.Takes n := by
  rw [CanBind, exists_binds_iff hs, List.length_range]

/-- Whether a call succeeds depends on the number of its arguments alone. -/
theorem exists_binds_iff_canBind {α : Type} {s : Signature} (hs : s.Legal) (as : List α) :
    (∃ fs, s.Binds as fs) ↔ s.CanBind as.length := by
  rw [exists_binds_iff hs, canBind_iff hs]

/-- Some number of arguments is right, unless a parameter needs a name. -/
theorem not_canBind_iff {s : Signature} (hs : s.Legal) :
    (∀ n, ¬ s.CanBind n) ↔ s.any Parameter.needsName = true := by
  constructor
  · intro h
    by_contra hneeds
    -- as many arguments as are required are right
    refine h (s.countP Parameter.isRequired) ((canBind_iff hs _).2 ⟨by simpa using hneeds, ?_⟩)
    refine takes_iff.2 ⟨Int.le_refl _, .inr ?_⟩
    exact_mod_cast s.countP_isRequired_le
  · intro h n hn
    rw [canBind_iff hs, h] at hn
    cases hn.1

end Signature

/-! ## Registered signatures -/

theorem Arity.find?_isUnfilled_of_ok {s : Signature} {a : Arity} (h : ofSignature s = .ok a) :
    s.find? Parameter.isUnfilled = none := by
  rw [ofSignature_eq] at h
  split at h
  · cases h
  · assumption

/-- Of a legal signature, what is unfilled needs a name or takes the names that are left. -/
theorem Signature.Legal.isUnfilled_eq {s : Signature} (hs : s.Legal) {p : Parameter} (hp : p ∈ s) :
    p.isUnfilled = (p.needsName || p.takesNames) := by
  have hplain := hs.plain p hp
  cases hk : p.kind <;>
    simp_all [Parameter.isUnfilled, Parameter.needsName, Parameter.takesNames,
      Parameter.isPositional, Parameter.takesRest, ParameterKind.collects]

theorem Signature.Legal.find?_isUnfilled {s : Signature} (hs : s.Legal) :
    s.find? Parameter.isUnfilled = s.find? fun p => p.needsName || p.takesNames :=
  List.find?_congr fun _ hp => hs.isUnfilled_eq hp

namespace Registry

variable {α β : Type} {r r' : Registry α β} {h : Helper α β} {name description : String}
  {s : Signature} {run : List α → β}

/-- A registered signature has no parameter that needs a name. -/
theorem any_needsName_of_register (hs : s.Legal)
    (hr : r.register name s run description = .ok (h, r')) :
    s.any Parameter.needsName = false := by
  rw [List.any_eq_false]
  intro p hp hneeds
  have hunfilled : p.isUnfilled = true := by rw [hs.isUnfilled_eq hp, hneeds, Bool.true_or]
  rcases register_cases r name s run description with
    ⟨-, hfault⟩ | ⟨-, ⟨q, -, hfault⟩ | ⟨arity, harity, -⟩⟩
  · cases hfault.symm.trans hr
  · cases hfault.symm.trans hr
  · exact List.find?_eq_none.1 (Arity.find?_isUnfilled_of_ok harity) p hp hunfilled

/-- **The arity is that of the function.** Whatever legal signature a helper is
registered with, it accepts a number of arguments exactly if a call of the
function with that many succeeds. So calling the helper fails, for the number of
its arguments, exactly where calling the function would, and else it calls it. -/
theorem accepts_iff_canBind (hs : s.Legal)
    (hr : r.register name s run description = .ok (h, r')) :
    (∀ n : Nat, h.accepts n = true ↔ s.CanBind n) ∧
    (∀ n : Int, n < 0 → h.accepts n = false) ∧
    ∀ args : List α,
      ((∃ fs, s.Binds args fs) ↔ h.call args = .ok (run args)) ∧
      ((¬ ∃ fs, s.Binds args fs) ↔ h.call args = .error (.arity name args.length)) := by
  have hneeds := any_needsName_of_register hs hr
  obtain ⟨-, hhelper, htakes⟩ := (register_spec rfl).2 h r' hr
  have haccepts : ∀ n : Nat, h.accepts n = true ↔ s.CanBind n := fun n => by
    rw [htakes, Signature.canBind_iff hs, hneeds]
    simp
  refine ⟨haccepts, fun n hn => ?_, fun args => ?_⟩
  · rw [Bool.eq_false_iff, Ne, htakes]
    intro h
    have := h.least
    omega
  · obtain ⟨arity, -, rfl⟩ := Option.map_eq_some_iff.1 hhelper
    rw [Signature.exists_binds_iff_canBind hs, ← haccepts, Helper.call]
    split
    next h => simp [h]
    next h => simp [h]

theorem accepts_iff_canBind_sample :
    let s : Signature := [⟨"a", .positionalOnly, false⟩, ⟨"b", .positional, true⟩,
      ⟨"others", .varPositional, false⟩, ⟨"flag", .keywordOnly, true⟩]
    s.Legal ∧ ∃ h r', (after sampleRequests).register "new" s id "" = .ok (h, r') ∧
      ¬ s.CanBind 0 ∧ h.call [] = .error (.arity "new" 0) ∧
      s.Binds [7, 8, 9] [.argument 7, .argument 8, .rest [9], .default] ∧
      h.call [7, 8, 9] = .ok [7, 8, 9] := by
  intro s
  have hs : s.Legal := by decide
  obtain ⟨⟨h, r'⟩, hr⟩ : ∃ x, (after sampleRequests).register "new" s id "" = .ok x := ⟨_, rfl⟩
  obtain ⟨hnumbers, -, hcalls⟩ := accepts_iff_canBind hs hr
  have hnone : ¬ s.CanBind 0 := by
    cases hr
    exact fun h => Bool.false_ne_true ((hnumbers 0).2 h)
  have hbinds : s.Binds [7, 8, 9] [.argument 7, .argument 8, .rest [9], .default] :=
    .argument rfl (.argument rfl (.rest rfl (.byName rfl rfl .done)))
  refine ⟨hs, h, r', hr, hnone, (hcalls []).2.1 ?_, hbinds, (hcalls [7, 8, 9]).1.1 ⟨_, hbinds⟩⟩
  rwa [Signature.exists_binds_iff_canBind hs]

/-- A legal signature is refused for the first parameter that needs a name or takes the names. -/
theorem register_eq_error_iff (hnew : r.contains name = false) (hs : s.Legal)
    {f : RegisterFault} :
    r.register name s run description = .error f ↔
      ∃ p, (s.find? fun p => p.needsName || p.takesNames) = some p ∧ f = .noDefault name p.name := by
  rw [(register_spec rfl).1, hs.find?_isUnfilled, hnew]
  simp

theorem refused_iff (hnew : r.contains name = false) (hs : s.Legal) :
    (∃ f, r.register name s run description = .error f) ↔
      s.any Parameter.needsName = true ∨ s.any Parameter.takesNames = true := by
  simp only [register_eq_error_iff hnew hs, List.any_eq_true, ← exists_or, ← and_or_left]
  constructor
  · rintro ⟨f, p, hp, -⟩
    exact ⟨p, List.mem_of_find?_eq_some hp, by simpa using List.find?_some hp⟩
  · rintro ⟨p, hmem, hp⟩
    have hfound : (s.find? fun p => p.needsName || p.takesNames).isSome = true :=
      List.find?_isSome.2 ⟨p, hmem, by simpa using hp⟩
    obtain ⟨q, hq⟩ := Option.isSome_iff_exists.1 hfound
    exact ⟨_, q, hq, rfl⟩

/-- **What is refused.** Under a new name, a legal signature cannot be registered
if it has a parameter that needs a name or one for all arguments by name, and the
first such parameter is named. No call succeeds exactly if a parameter needs a
name. So what is refused is what cannot be called, unless the signature takes all
arguments by name and needs none. -/
theorem refused_iff_uncallable_iff (hnew : r.contains name = false) (hs : s.Legal) :
    (((∃ f, r.register name s run description = .error f) ↔ ∀ n, ¬ s.CanBind n) ↔
      ¬ (s.any Parameter.takesNames = true ∧ s.any Parameter.needsName = false)) ∧
    ((∀ n, ¬ s.CanBind n) ↔ s.any Parameter.needsName = true) ∧
    ∀ f, r.register name s run description = .error f ↔
      ∃ p, (s.find? fun p => p.needsName || p.takesNames) = some p ∧
        f = .noDefault name p.name := by
  refine ⟨?_, Signature.not_canBind_iff hs, fun f => register_eq_error_iff hnew hs⟩
  rw [refused_iff hnew hs, Signature.not_canBind_iff hs]
  cases s.any Parameter.needsName <;> simp

theorem refused_iff_uncallable_flag :
    let s : Signature := [⟨"a", .positional, true⟩, ⟨"others", .varPositional, false⟩,
      ⟨"flag", .keywordOnly, false⟩, ⟨"options", .varKeyword, false⟩]
    (after sampleRequests).contains "new" = false ∧ s.Legal ∧ (∀ n, ¬ s.CanBind n) ∧
      (after sampleRequests).register "new" s id "" = .error (.noDefault "new" "flag") := by
  intro s
  have hnew : (after sampleRequests).contains "new" = false := by decide
  have hs : s.Legal := by decide
  have hspec : (_ ↔ _) ∧ ∀ f, (after sampleRequests).register "new" s id "" = .error f ↔ _ :=
    (refused_iff_uncallable_iff hnew hs).2
  exact ⟨hnew, hs, hspec.1.2 rfl, (hspec.2 _).2 ⟨_, rfl, rfl⟩⟩

/-- A function of one argument that takes all arguments by name is refused, though it can be
called. -/
theorem refused_of_takesNames :
    let s : Signature := [⟨"a", .positional, false⟩, ⟨"options", .varKeyword, false⟩]
    let r : Registry Nat (List Nat) := .empty
    r.contains "f" = false ∧ s.Legal ∧
      r.register "f" s id "" = .error (.noDefault "f" "options") ∧
      s.Binds [7] [.argument 7, .noNames] ∧
      ¬ ((∃ f, r.register "f" s id "" = .error f) ↔ ∀ n, ¬ s.CanBind n) := by
  intro s r
  have hs : s.Legal := by decide
  have hbinds : s.Binds [7] [.argument 7, .noNames] := .argument rfl (.noNames rfl .done)
  refine ⟨rfl, hs, rfl, hbinds, fun h => ?_⟩
  exact h.1 ⟨_, rfl⟩ 1 ((Signature.exists_binds_iff_canBind hs [7]).1 ⟨_, hbinds⟩)

end Registry

end ProxyMaps.Helper
