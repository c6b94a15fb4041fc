/-
Histories of requests to a registry of helpers. A request that registers a
helper either fails and changes nothing or puts it behind all others, under a
name that is new (`perform_cases`). So what is registered is what was registered
with success, in order and under names that never repeat (`entries_after`), and
a name stands for the first helper of that name whose signature is not refused
(`find?_after`).
-/
import Mathlib.Data.List.Basic
import Mathlib.Data.List.Induction
import ProxyMaps.Helper.Registry
import ProxyMaps.Proofs.Helper.Signature
import ProxyMaps.Proofs.History
import ProxyMaps.Proofs.Lists
import ProxyMaps.Proofs.Table

namespace ProxyMaps.Helper.Registry

variable {α β : Type}

/-- What can be asked of a registry. -/
inductive Request (α β : Type) where
  | register (name : String) (signature : Signature) (run : List α → β) (description : String)
  | lookup (name : String)
  | call (name : String) (args : List α)
  | contains (name : String)

namespace Request

/-- The registry that a request leaves. -/
def perform (r : Registry α β) : Request α β → Registry α β
  | register name signature run description =>
    match r.register name signature run description with
    | .ok (_, r) => r
    | .error _ => r
  | lookup _ | call _ _ | contains _ => r

/-- The helper that a request registers with success. -/
def made? (r : Registry α β) : Request α β → Option (Helper α β)
  | register name signature run description =>
    (r.register name signature run description).toOption.map Prod.fst
  | lookup _ | call _ _ | contains _ => none

/-- The helper that a request would register in an empty registry. -/
def helper? : Request α β → Option (Helper α β)
  | register name signature run description =>
    (Arity.ofSignature signature).toOption.map fun arity => ⟨name, arity, description, run⟩
  | lookup _ | call _ _ | contains _ => none

end Request

/-- A registry and a request that meets it. -/
abbrev Step (α β : Type) := Registry α β × Request α β

/-- The steps of a history that begins with an empty registry. -/
def steps (requests : List (Request α β)) : List (Step α β) :=
  History.steps Request.perform empty requests

/-- The registry after a history. -/
def after (requests : List (Request α β)) : Registry α β := requests.foldl Request.perform empty

/-- The helpers that a history registers with success, in order. -/
def registered (requests : List (Request α β)) : List (Helper α β) :=
  (steps requests).filterMap fun s => s.2.made? s.1

/-- The first helper of a name that a history asks for with a signature that is not refused. -/
def first? (requests : List (Request α β)) (name : String) : Option (Helper α β) :=
  (requests.filterMap Request.helper?).find? fun h => h.name = name

/-! ## One request -/

section

variable {r : Registry α β} {name : String}

theorem contains_eq_isSome (r : Registry α β) (name : String) :
    r.contains name = (r.find? name).isSome :=
  Table.contains_eq_isSome r.helpers name

theorem contains_eq_false_iff : r.contains name = false ↔ r.find? name = none :=
  Table.contains_eq_false_iff

/-- All that a registration can come to. -/
theorem register_cases (r : Registry α β) (name : String) (signature : Signature)
    (run : List α → β) (description : String) :
    (r.contains name = true ∧ r.register name signature run description = .error (.taken name)) ∨
    r.contains name = false ∧
      ((∃ p, Arity.ofSignature signature = .error p ∧
          r.register name signature run description = .error (.noDefault name p.name)) ∨
        ∃ arity, Arity.ofSignature signature = .ok arity ∧
          r.register name signature run description =
            .ok (⟨name, arity, description, run⟩,
              ⟨r.helpers.insert name ⟨name, arity, description, run⟩⟩)) := by
  unfold register
  cases r.contains name with
  | true => exact .inl ⟨rfl, rfl⟩
  | false =>
    refine .inr ⟨rfl, ?_⟩
    cases Arity.ofSignature signature with
    | error p => exact .inl ⟨p, rfl, rfl⟩
    | ok arity => exact .inr ⟨arity, rfl, rfl⟩

/-- A request changes nothing, or it puts a helper under a new name. -/
theorem perform_cases (r : Registry α β) (q : Request α β) :
    (q.made? r = none ∧ q.perform r = r ∧ ∀ h, q.helper? = some h → r.contains h.name = true) ∨
    ∃ h, q.made? r = some h ∧ q.perform r = ⟨r.helpers.insert h.name h⟩ ∧ q.helper? = some h ∧
      r.contains h.name = false := by
  cases q with
  | lookup _ | call _ _ | contains _ => exact .inl ⟨rfl, rfl, nofun⟩
  | register name signature run description =>
    simp only [Request.made?, Request.perform, Request.helper?]
    rcases register_cases r name signature run description with
      ⟨htaken, h⟩ | ⟨hnew, ⟨p, harity, h⟩ | ⟨arity, harity, h⟩⟩
    · refine .inl ⟨by rw [h]; rfl, by rw [h], fun made hmade => ?_⟩
      obtain ⟨arity, -, rfl⟩ := Option.map_eq_some_iff.1 hmade
      exact htaken
    · exact .inl ⟨by rw [h]; rfl, by rw [h], by rw [harity]; nofun⟩
    · exact .inr ⟨⟨name, arity, description, run⟩, by rw [h]; rfl, by rw [h],
        by rw [harity]; rfl, hnew⟩

theorem entries_perform (r : Registry α β) (q : Request α β) :
    (q.perform r).helpers.entries =
      r.helpers.entries ++ (q.made? r).toList.map fun h => (h.name, h) := by
  rcases perform_cases r q with ⟨hmade, hsame, -⟩ | ⟨h, hmade, hput, -, hnew⟩
  · rw [hmade, hsame]
    simp
  · rw [hmade, hput]
    have hnew : h.name ∉ r.helpers.keys := fun hmem =>
      absurd ((Table.contains_iff_mem_keys _ _).2 hmem) (Bool.eq_false_iff.1 hnew)
    exact Table.entries_insert_of_notMem hnew h

theorem entries_prefix_perform (r : Registry α β) (q : Request α β) :
    r.helpers.entries <+: (q.perform r).helpers.entries :=
  entries_perform r q ▸ List.prefix_append _ _

theorem find?_perform (r : Registry α β) (q : Request α β) (name : String) :
    (q.perform r).find? name = (r.find? name).or (q.helper?.filter fun h => h.name = name) := by
  rcases perform_cases r q with ⟨-, hsame, htaken⟩ | ⟨h, -, hput, hhelper, hnew⟩
  · rw [hsame]
    cases hhelper : q.helper? with
    | none => simp
    | some h =>
      by_cases hname : h.name = name
      · have hfound := htaken h hhelper
        -- the name is taken, by an earlier helper
        rw [hname, contains_eq_isSome] at hfound
        obtain ⟨h', hfound⟩ := Option.isSome_iff_exists.1 hfound
        rw [hfound, Option.some_or]
      · simp [Option.filter, hname]
  · have hfind : (q.perform r).find? name = if name = h.name then some h else r.find? name := by
      rw [hput]
      exact Table.find?_insert r.helpers h.name name h
    rw [hfind, hhelper]
    by_cases hname : name = h.name
    · subst hname
      simp [Option.filter, contains_eq_false_iff.1 hnew]
    · simp [Option.filter, hname, Ne.symm hname]

/-- A call runs the helper of a name, if there is one that takes as many arguments. -/
theorem call_eq (r : Registry α β) (name : String) (args : List α) :
    r.call name args =
      match r.find? name with
      | none => .error (.unknown name)
      | some h => h.call args := by
  unfold call lookup
  cases r.find? name <;> rfl

end

/-! ## The views of a registry -/

/-- Every view of a registry shows the same helpers, in the same order. -/
structure Shows (r : Registry α β) (hs : List (Helper α β)) : Prop where
  names : r.names = hs.map Helper.name
  nodup : r.names.Nodup
  size : r.size = hs.length
  contains : ∀ name, r.contains name = true ↔ ∃ h ∈ hs, h.name = name
  lookup : ∀ name h, r.lookup name = .ok h ↔ h ∈ hs ∧ h.name = name
  unknown : ∀ name f, r.lookup name = .error f ↔ r.contains name = false ∧ f = .unknown name
  toTable : r.toTable.entries = hs.map fun h => (h.name, h.call)

theorem lookup_eq_ok_iff {r : Registry α β} {name : String} {h : Helper α β} :
    r.lookup name = .ok h ↔ r.find? name = some h := by
  unfold lookup
  cases r.find? name <;> simp

theorem shows_of_entries {r : Registry α β} {hs : List (Helper α β)}
    (h : r.helpers.entries = hs.map fun h => (h.name, h)) : r.Shows hs := by
  have hnames : r.names = hs.map Helper.name := by
    rw [names, Table.keys, h, List.map_map]
    rfl
  refine ⟨hnames, r.helpers.nodup_keys, ?_, fun name => ?_, fun name made => ?_,
    fun name f => ?_, ?_⟩
  · rw [size, Table.size, h, List.length_map]
  · rw [Registry.contains, Table.contains_iff_mem_keys, ← List.mem_map]
    exact hnames ▸ Iff.rfl
  · rw [lookup_eq_ok_iff, find?, Table.find?_eq_some_iff, h, List.mem_map]
    constructor
    · rintro ⟨_, hmade, heq⟩
      cases heq
      exact ⟨hmade, rfl⟩
    · rintro ⟨hmade, rfl⟩
      exact ⟨made, hmade, rfl⟩
  · rw [contains_eq_isSome, Registry.lookup]
    cases r.find? name <;> simp [eq_comm]
  · show r.helpers.entries.map (fun e => (e.1, e.2.call)) = _
    rw [h, List.map_map]
    rfl

/-! ## A history of requests -/

theorem steps_concat (requests : List (Request α β)) (q : Request α β) :
    steps (requests ++ [q]) = steps requests ++ [(after requests, q)] :=
  History.steps_concat _ requests q

theorem after_concat (requests : List (Request α β)) (q : Request α β) :
    after (requests ++ [q]) = q.perform (after requests) :=
  List.foldl_concat Request.perform empty q requests

/-- What is registered is what was registered with success, in order. -/
theorem entries_after (requests : List (Request α β)) :
    (after requests).helpers.entries = (registered requests).map fun h => (h.name, h) := by
  -- from the end, since a request meets what those before it leave
  induction requests using List.reverseRecOn with
  | nil => rfl
  | append_singleton requests q ih =>
    have hlast : registered (requests ++ [q]) =
        registered requests ++ (q.made? (after requests)).toList := by
      rw [registered, steps_concat, List.filterMap_append, registered, List.filterMap_singleton]
    rw [after_concat, entries_perform, ih, hlast, List.map_append]

/-- A name stands for the first helper of that name whose signature is not refused. -/
theorem find?_after (requests : List (Request α β)) (name : String) :
    (after requests).find? name = first? requests name := by
  induction requests using List.reverseRecOn with
  | nil => rfl
  | append_singleton requests q ih =>
    rw [after_concat, find?_perform, ih, first?, first?, List.filterMap_append, List.find?_append,
      List.filterMap_singleton]
    cases q.helper? with
    | none => rfl
    | some h => rw [Option.toList_some, List.find?_singleton, Option.filter]

theorem name_of_first? {requests : List (Request α β)} {name : String} {h : Helper α β}
    (hfirst : first? requests name = some h) : h.name = name := by
  simpa using List.find?_some hfirst

/-- What a step finds registered stays registered. -/
theorem entries_prefix_after {requests : List (Request α β)} {s : Step α β}
    (hs : s ∈ steps requests) :
    s.1.helpers.entries <+: (after requests).helpers.entries ∧
      (s.2.perform s.1).helpers.entries <+: (after requests).helpers.entries :=
  History.rel_foldl (R := fun r r' => r.helpers.entries <+: r'.helpers.entries)
    (fun _ => List.prefix_rfl) List.IsPrefix.trans entries_prefix_perform hs

/-- A call runs the first helper of its name, if there is one that takes as many arguments. -/
theorem call_after (requests : List (Request α β)) (name : String) (args : List α) :
    (after requests).call name args =
      match first? requests name with
      | none => .error (.unknown name)
      | some h =>
        if h.accepts args.length then .ok (h.run args) else .error (.arity name args.length) := by
  rw [call_eq, find?_after]
  cases hfirst : first? requests name with
  | none => rfl
  | some h => exact name_of_first? hfirst ▸ rfl

theorem toTable_after {requests : List (Request α β)} {name : String}
    {f : List α → Except CallFault β} (hf : (after requests).toTable.find? name = some f)
    (args : List α) : f args = (after requests).call name args := by
  rw [toTable, Table.find?_mapValues] at hf
  obtain ⟨h, hfind, rfl⟩ := Option.map_eq_some_iff.1 hf
  rw [call_eq, find?, hfind]

/-- What a registration answers and leaves. -/
theorem register_spec {r : Registry α β} {q : Request α β} {name : String} {signature : Signature}
    {run : List α → β} {description : String}
    (hq : q = .register name signature run description) :
    (∀ f, r.register name signature run description = .error f ↔
      r.contains name = true ∧ f = .taken name ∨
      r.contains name = false ∧ ∃ p, signature.find? Parameter.isUnfilled = some p ∧
        f = .noDefault name p.name) ∧
    ∀ h r', r.register name signature run description = .ok (h, r') →
      r' = q.perform r ∧ q.helper? = some h ∧ ∀ n, h.accepts n = true ↔ signature.Takes n := by
  subst hq
  simp only [Request.perform, Request.helper?, ← Arity.ofSignature_eq_error_iff]
  rcases register_cases r name signature run description with
    ⟨htaken, h⟩ | ⟨hnew, ⟨p, harity, h⟩ | ⟨arity, harity, h⟩⟩
  · rw [h, htaken]
    refine ⟨fun f => ?_, nofun⟩
    rw [Except.error.injEq, eq_comm]
    simp
  · rw [h, hnew, harity]
    refine ⟨fun f => ?_, nofun⟩
    rw [Except.error.injEq, eq_comm]
    simp
  · rw [h, hnew, harity]
    refine ⟨by simp, fun made r' heq => ?_⟩
    cases heq
    exact ⟨rfl, rfl, Arity.accepts_iff_of_ofSignature harity⟩

/-- A history with a name that is taken and a signature that is refused. -/
def sampleRequests : List (Request Nat (List Nat)) :=
  [.register "one" [⟨"a", .positional, false⟩] id "", .register "one" [] (fun _ => []) "",
    .register "key" [⟨"flag", .keywordOnly, false⟩] id "", .call "one" [1],
    .register "two" [⟨"a", .positionalOnly, false⟩, ⟨"b", .positional, true⟩] List.reverse ""]

/-- **Registered once and for all.** Over any history all views of a registry
show the helpers that were registered with success, in order and under names
that do not repeat. A registration fails exactly for a name that is taken or a
signature that is refused, and then the registry is as it was. Nothing that a
step found registered is lost or replaced. A call fails for a name that is not
registered, else for a number of arguments that the helper does not take, and
else runs the first function that was registered under the name; so does the
table of functions. -/
theorem registered_once (requests : List (Request α β)) :
    (after requests).Shows (registered requests) ∧
    (∀ s ∈ steps requests,
      s.1.helpers.entries <+: (after requests).helpers.entries ∧
      (s.2.perform s.1).helpers.entries <+: (after requests).helpers.entries ∧
      (s.2.made? s.1 = none → s.2.perform s.1 = s.1) ∧
      ∀ name signature run description, s.2 = .register name signature run description →
        (∀ f, s.1.register name signature run description = .error f ↔
          s.1.contains name = true ∧ f = .taken name ∨
          s.1.contains name = false ∧ ∃ p, signature.find? Parameter.isUnfilled = some p ∧
            f = .noDefault name p.name) ∧
        ∀ h r', s.1.register name signature run description = .ok (h, r') →
          r' = s.2.perform s.1 ∧ s.2.helper? = some h ∧
            ∀ n, h.accepts n = true ↔ signature.Takes n) ∧
    ∀ name, (after requests).find? name = first? requests name ∧
      ∀ args,
        ((after requests).call name args =
          match first? requests name with
          | none => .error (.unknown name)
          | some h =>
            if h.accepts args.length then .ok (h.run args)
            else .error (.arity name args.length)) ∧
        ∀ f, (after requests).toTable.find? name = some f →
          f args = (after requests).call name args := by
  refine ⟨shows_of_entries (entries_after requests), fun s hs => ?_, fun name =>
    ⟨find?_after requests name, fun args => ⟨call_after requests name args,
      fun f hf => toTable_after hf args⟩⟩⟩
  obtain ⟨hbefore, hbehind⟩ := entries_prefix_after hs
  refine ⟨hbefore, hbehind, fun hnone => ?_, fun name signature run description hq =>
    register_spec hq⟩
  rcases perform_cases s.1 s.2 with ⟨-, hsame, -⟩ | ⟨h, hmade, -, -, -⟩
  · exact hsame
  · cases hnone.symm.trans hmade

theorem registered_once_sample :
    let r := after sampleRequests
    let second : Step Nat (List Nat) :=
      (after (sampleRequests.take 1), .register "one" [] (fun _ => []) "")
    r.names = ["one", "two"] ∧ r.size = 2 ∧ r.contains "key" = false ∧
      second ∈ steps sampleRequests ∧
      second.1.register "one" [] (fun _ => []) "" = .error (.taken "one") ∧
      second.2.perform second.1 = second.1 ∧
      r.call "one" [7] = .ok [7] ∧ r.call "two" [1, 2] = .ok [2, 1] ∧
      r.call "two" [1, 2, 3] = .error (.arity "two" 3) ∧
      r.call "key" [] = .error (.unknown "key") := by
  intro r second
  obtain ⟨hshows, hsteps, hcalls⟩ := registered_once sampleRequests
  have hsecond : second ∈ steps sampleRequests := .tail _ (.head _)
  obtain ⟨-, -, hkeeps, hregister⟩ := hsteps second hsecond
  obtain ⟨hfault, -⟩ := hregister "one" [] (fun _ => []) "" rfl
  have hkey : r.contains "key" = false := ((hshows.unknown "key" (.unknown "key")).1 rfl).1
  exact ⟨hshows.names, hshows.size, hkey, hsecond, (hfault (.taken "one")).2 (.inl ⟨rfl, rfl⟩),
    hkeeps rfl, ((hcalls "one").2 [7]).1, ((hcalls "two").2 [1, 2]).1,
    ((hcalls "two").2 [1, 2, 3]).1, ((hcalls "key").2 []).1⟩

end ProxyMaps.Helper.Registry
