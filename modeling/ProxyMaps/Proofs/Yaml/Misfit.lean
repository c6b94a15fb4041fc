/-
Which texts break the reader of documents instead of being malformed. It
breaks where a tag promises what a text is not (`Content.Unfit`), or where a
mapping has a tag that asks for a text (`Visit.Misfit`), if nothing that is
looked at before is malformed (`wild_read_iff`).
-/
import ProxyMaps.Proofs.Decimal.Rounding
import ProxyMaps.Proofs.Lists
import ProxyMaps.Proofs.Yaml.Visit
import ProxyMaps.Yaml.Document

namespace ProxyMaps.Yaml

/-- A result that fails, and not because something is malformed. -/
def Wild {α : Type} (x : Except Fault α) : Prop := ∃ f, x = .error f ∧ f ≠ .malformed

section Wild

variable {α β : Type} {x : Except Fault α} {f : Fault}

@[simp] theorem not_wild_ok (a : α) : ¬ Wild (.ok a) := by simp [Wild]

@[simp] theorem wild_error_iff : Wild (.error f : Except Fault α) ↔ f ≠ .malformed := by
  simp [Wild]

@[simp] theorem wild_map_iff (g : α → β) : Wild (x.map g) ↔ Wild x := by
  cases x <;> simp [Except.map]

theorem not_wild_bind {g : α → Except Fault β} (hx : ¬ Wild x) (hg : ∀ a, ¬ Wild (g a)) :
    ¬ Wild (x >>= g) := by
  cases x with
  | ok a => exact hg a
  | error f => exact fun h => hx (wild_error_iff.2 (wild_error_iff.1 h))

theorem not_wild_mapM {g : α → Except Fault β} (hg : ∀ a, ¬ Wild (g a)) (as : List α) :
    ¬ Wild (as.mapM g) := by
  induction as with
  | nil => exact not_wild_ok _
  | cons a as ih =>
    rw [List.mapM_cons]
    exact not_wild_bind (hg a) fun b => not_wild_bind ih fun bs => not_wild_ok _

end Wild

namespace Content

open Decimal (Binary64)

/-! ## Texts that are not what a tag promises -/

/-- A text without underscores and without its sign. -/
def unsigned (s : String) : List Char :=
  (Decimal.Integer.cutSign (s.toList.filter (· ≠ '_'))).2

/-- The places of a floating point number, each of which counts as `placeBase` times the next
one. -/
def places (s : String) : List (List Char) :=
  List.splitOn ':' (Decimal.Integer.cutSign (realText s)).2

/-- The most places that a floating point number can have. -/
def maxPlaces : Nat := 174

/-- A tag promises what a text is not, so that reading the text breaks. -/
def Unfit (tag : Tag) (s : String) : Prop :=
  match tag with
  | .bool => ∀ f ∈ flags, f.1 ≠ String.ofList (Text.lower s.toList)
  | .int => unsigned s = []
  | .float =>
    realText s = [] ∨
      (∀ p ∈ places s, (Decimal.Real.read? p).isSome = true) ∧ maxPlaces < (places s).length
  | .moment => parts? s.toList = none
  | _ => False

/-! ### Numbers -/

theorem not_wild_integerIn (b : Decimal.Base) (s : List Char) : ¬ Wild (integerIn b s) := by
  unfold integerIn
  split <;> simp

theorem wild_magnitude_iff {s : List Char} : Wild (magnitude s) ↔ s = [] := by
  cases s with
  | nil => simp [magnitude]
  | cons c rest =>
    refine iff_of_false ?_ (List.cons_ne_nil c rest)
    unfold magnitude
    split
    case h_6 =>
      split
      · exact not_wild_bind (not_wild_mapM (not_wild_integerIn .decimal) _) fun _ => not_wild_ok _
      · exact not_wild_integerIn .decimal _
    all_goals first
      | exact not_wild_ok _
      | exact not_wild_integerIn _ _
      | contradiction

theorem wild_integer_iff {s : String} : Wild (integer s) ↔ unsigned s = [] := by
  unfold integer unsigned
  cases s.toList.filter (· ≠ '_') with
  | nil => simp [Decimal.Integer.cutSign]
  | cons c rest =>
    rw [if_neg (by simp), wild_map_iff]
    exact wild_magnitude_iff

theorem not_wild_realOf (s : List Char) : ¬ Wild (realOf s) := by
  unfold realOf
  split <;> simp

/-- Numbers are read from texts if all of these are numerals. -/
theorem mapM_realOf_cases (ps : List (List Char)) :
    (∀ p ∈ ps, (Decimal.Real.read? p).isSome = true) ∧
        (∃ xs, ps.mapM realOf = .ok xs ∧ xs.length = ps.length) ∨
      ¬ (∀ p ∈ ps, (Decimal.Real.read? p).isSome = true) ∧
        ps.mapM realOf = .error .malformed := by
  induction ps with
  | nil => exact .inl ⟨by simp, [], rfl, rfl⟩
  | cons p ps ih =>
    simp only [List.mapM_cons, realOf, List.forall_mem_cons]
    cases Decimal.Real.read? p with
    | none => exact .inr ⟨by simp, rfl⟩
    | some x =>
      rcases ih with ⟨hall, xs, hxs, hlength⟩ | ⟨hnone, hxs⟩
      · exact .inl ⟨⟨rfl, hall⟩, x :: xs, by rw [hxs]; rfl, by simp [hlength]⟩
      · exact .inr ⟨fun h => hnone h.2, by rw [hxs]; rfl⟩

theorem exists_placeWeight_eq_ok {k : Nat} (h : k < maxPlaces) :
    ∃ x, placeWeight (placeBase ^ k) = .ok x := by
  have hpos : 0 < placeBase ^ k := Nat.pow_pos (by decide)
  have hle : placeBase ^ k ≤ placeBase ^ (maxPlaces - 1) :=
    Nat.pow_le_pow_right (by decide) (Nat.le_sub_one_of_lt h)
  -- the weight of the last place is not too large, and so no other is
  have hlast : 2 * placeBase ^ (maxPlaces - 1) * Binary64.unit < Binary64.limit := by
    decide +kernel
  have hsize : 2 * placeBase ^ k * Binary64.unit < Binary64.limit :=
    Nat.lt_of_le_of_lt (Nat.mul_le_mul_right _ (Nat.mul_le_mul_left 2 hle)) hlast
  obtain ⟨n, hn, -⟩ := Binary64.ofInt_near hpos hsize
  exact ⟨.finite false n, by rw [placeWeight, hn, unlessTooLarge]⟩

theorem placeWeight_maxPlaces :
    placeWeight (placeBase ^ maxPlaces) = .error .floatTooLarge := by
  decide +kernel

/-- The sum of places breaks if there are too many of them. -/
theorem wild_placesSum_iff (ps : List Binary64) (sum : Binary64) {k weight : Nat}
    (hweight : weight = placeBase ^ k) (hk : k ≤ maxPlaces) :
    Wild (placesSum sum weight ps) ↔ maxPlaces < k + ps.length := by
  induction ps generalizing sum k weight with
  | nil => exact iff_of_false (not_wild_ok sum) (Nat.not_lt.2 hk)
  | cons p ps ih =>
    rw [List.length_cons, placesSum]
    rcases Nat.lt_or_eq_of_le hk with hlt | heq
    · obtain ⟨x, hx⟩ := exists_placeWeight_eq_ok hlt
      rw [hweight, hx, ← Nat.add_assoc, Nat.add_right_comm]
      exact ih _ (Nat.pow_succ ..).symm hlt
    · rw [hweight, heq, placeWeight_maxPlaces]
      exact iff_of_true (wild_error_iff.2 nofun) (by omega)

theorem wild_bind_placesSum_iff (ps : List (List Char)) :
    Wild (ps.mapM realOf >>= fun xs => placesSum .zero 1 xs.reverse) ↔
      (∀ p ∈ ps, (Decimal.Real.read? p).isSome = true) ∧ maxPlaces < ps.length := by
  rcases mapM_realOf_cases ps with ⟨hall, xs, hxs, hlength⟩ | ⟨hnone, hxs⟩
  · have hsum := wild_placesSum_iff xs.reverse .zero (Nat.pow_zero _).symm (Nat.zero_le maxPlaces)
    rw [List.length_reverse, hlength, Nat.zero_add] at hsum
    rw [hxs]
    exact hsum.trans (and_iff_right hall).symm
  · rw [hxs]
    exact iff_of_false (fun h => wild_error_iff.1 h rfl) fun h => hnone h.1

theorem wild_real_iff {s : String} : Wild (real s) ↔ Unfit .float s := by
  unfold Unfit places real
  by_cases hnone : realText s = []
  · simp [hnone]
  rw [if_neg (by simpa using hnone)]
  generalize Decimal.Integer.cutSign (realText s) = cut
  obtain ⟨negative, size⟩ := cut
  simp only [wild_map_iff, hnone, false_or]
  -- a text without a colon is one place
  have hone (h : ':' ∉ size) : ¬ ((∀ p ∈ List.splitOn ':' size,
      (Decimal.Real.read? p).isSome = true) ∧ maxPlaces < (List.splitOn ':' size).length) := by
    rw [List.splitOn_eq_singleton h, List.length_singleton]
    exact fun hlong => absurd hlong.2 (by decide)
  split
  next h => exact iff_of_false (not_wild_ok _) (hone (by rw [h]; decide))
  split
  next h => exact iff_of_false (not_wild_ok _) (hone (by rw [h]; decide))
  split
  next => exact wild_bind_placesSum_iff _
  next h => exact iff_of_false (not_wild_realOf size) (hone (by simpa using h))

/-! ### All tags -/

theorem wild_flag_iff {s : String} : Wild (flag s) ↔ Unfit .bool s := by
  simp only [flag, Unfit]
  split
  next f hf =>
    refine iff_of_false (not_wild_ok _) fun hnone => ?_
    exact hnone f (List.mem_of_find?_eq_some hf) (by simpa using List.find?_some hf)
  next hnone =>
    rw [List.find?_eq_none] at hnone
    exact iff_of_true (wild_error_iff.2 nofun) (by simpa using hnone)

theorem wild_moment_iff {s : String} : Wild (moment s) ↔ Unfit .moment s := by
  simp only [moment, Unfit]
  split
  next h => exact iff_of_true (wild_error_iff.2 nofun) h
  next p h =>
    refine iff_of_false ?_ (h ▸ Option.some_ne_none p)
    generalize (Date.of? p.year p.month p.day >>= _ : Option Value) = value?
    cases value? <;> simp

theorem not_wild_binary (s : String) : ¬ Wild (binary s) := by
  unfold binary
  split
  · split <;> simp
  · simp

/-- Reading a text breaks exactly if the text is unfit for the tag. -/
theorem wild_ofText_iff {tag : Tag} {s : String} : Wild (ofText tag s) ↔ Unfit tag s := by
  cases tag with
  | bool => exact (wild_map_iff _).trans wild_flag_iff
  | int => exact (wild_map_iff _).trans wild_integer_iff
  | float => exact (wild_map_iff _).trans wild_real_iff
  | moment => exact wild_moment_iff
  | binary => exact iff_of_false (mt (wild_map_iff _).1 (not_wild_binary s)) id
  | null | text => exact iff_of_false (not_wild_ok _) id
  | _ => exact iff_of_false (fun h => wild_error_iff.1 h rfl) id

theorem Unfit.isScalar {tag : Tag} {s : String} (h : Unfit tag s) : tag.isScalar = true := by
  cases tag <;> first | rfl | cases h

end Content

/-! ## Visits and documents -/

/-- A visit that breaks the reader. -/
def Visit.Misfit : Visit → Prop
  | scalar tag (.own s) => Content.Unfit tag s
  | scalar tag (.lent s) => tag = .moment ∨ Content.Unfit tag s
  | scalar tag .endless => tag.isScalar = true
  | scalar _ .missing | misplaced => False

theorem Visit.Misfit.isScalar {tag : Tag} {spelling : Spelling}
    (h : (Visit.scalar tag spelling).Misfit) : tag.isScalar = true := by
  cases spelling with
  | own s => exact Content.Unfit.isScalar h
  | lent s =>
    rcases h with rfl | h
    · rfl
    · exact h.isScalar
  | missing => exact h.elim
  | endless => exact h

theorem Visit.misfit_iff_wild {v : Visit} : v.Misfit ↔ Wild v.read := by
  cases v with
  | misplaced => simp [Misfit, read]
  | scalar tag spelling =>
    by_cases htag : tag.isScalar = true
    · rw [read, if_pos htag]
      cases spelling with
      | own s => exact Content.wild_ofText_iff.symm
      | lent s =>
        by_cases hmoment : tag = .moment
        · simp [Misfit, Spelling.read, hmoment]
        · simpa [Misfit, Spelling.read, hmoment] using Content.wild_ofText_iff.symm
      | missing => simp [Misfit, Spelling.read]
      | endless => simp [Misfit, Spelling.read, htag]
    · rw [read, if_neg htag]
      exact iff_of_false (fun h => htag h.isScalar) fun h => wild_error_iff.1 h rfl

/-! ### Nodes -/

namespace Document

/-- The tag of a node promises what the node is not. -/
def MisfitAt (d : Document) (i : Nat) : Prop :=
  match (d.node i).body with
  | .scalar text => Content.Unfit (d.node i).tag text
  | .mapping _ => (d.node i).tag.isScalar = true ∨ (d.node i).tag = .value
  | .sequence _ => False

theorem spelling_of_scalar {d : Document} {i : Nat} {text : String}
    (h : (d.node i).body = .scalar text) : d.spelling i = .own text := by
  rw [spelling, h]

theorem spelling_of_sequence {d : Document} {i : Nat} {items : List Nat}
    (h : (d.node i).body = .sequence items) : d.spelling i = .missing := by
  simp only [spelling, lentText, h]

/-- A misfit is looked at only where the tag of a node promises what the node is not. -/
theorem exists_misfitAt {d : Document} {v : Visit} (hv : v ∈ d.visits) (h : v.Misfit) :
    ∃ i, d.MisfitAt i := by
  have hof := visit_of_mem_visits hv
  cases v with
  | misplaced => exact h.elim
  | scalar tag spelling =>
    obtain ⟨d', i, hd', rfl, rfl⟩ := hof
    refine ⟨i, ?_⟩
    unfold MisfitAt
    cases hbody : (d'.node i).body with
    | scalar text =>
      rw [spelling_of_scalar hbody] at h
      rw [(hd' i).body_eq_scalar hbody]
      rcases (hd' i).tag with htag | ⟨-, htag⟩
      · exact htag ▸ h
      · -- every text is a text
        rw [htag] at h
        exact h.elim
    | sequence items =>
      rw [spelling_of_sequence hbody] at h
      exact h.elim
    | mapping pairs =>
      obtain ⟨pairs, hpairs⟩ := (hd' i).exists_body_eq_mapping hbody
      rw [hpairs]
      rcases (hd' i).tag with htag | ⟨htag, -⟩
      · exact .inl (htag ▸ h.isScalar)
      · exact .inr htag

end Document

/-! ### Texts -/

theorem Visit.fault?_eq_some_iff {v : Visit} {f : Fault} :
    v.fault? = some f ↔ v.read = .error f := by
  unfold fault?
  cases v.read <;> simp

theorem Document.value_eq_error_iff {d : Document} {f : Fault} :
    d.value = .error f ↔ d.visits.findSome? Visit.fault? = some f := by
  unfold value
  cases d.visits.findSome? Visit.fault? <;> simp

/-- The visits of the documents of a text. -/
def visits (text : String) : List Visit := (documents text).1.flatMap Document.visits

theorem mapM_value_eq_error_iff {ds : List Document} {f : Fault} :
    ds.mapM Document.value = .error f ↔
      (ds.flatMap Document.visits).findSome? Visit.fault? = some f := by
  induction ds with
  | nil => simp [pure, Except.pure]
  | cons d ds ih =>
    rw [List.mapM_cons, List.flatMap_cons, List.findSome?_append]
    cases hd : d.value with
    | error f' => simp [Document.value_eq_error_iff.1 hd, bind, Except.bind]
    | ok v =>
      have hnone : d.visits.findSome? Visit.fault? = none := by
        rw [Option.eq_none_iff_forall_ne_some]
        intro f' hf'
        rw [Document.value_eq_error_iff.2 hf'] at hd
        cases hd
      rw [hnone, Option.none_or, ← ih]
      cases ds.mapM Document.value <;> simp [bind, Except.bind, pure, Except.pure]

/-- The reader breaks exactly if the first visit with a fault is a misfit. -/
theorem wild_read_iff {text : String} :
    Wild (read text) ↔ ∃ v, (visits text).find? Visit.fails = some v ∧ v.Misfit := by
  have hread : ∀ f, f ≠ .malformed →
      (read text = .error f ↔ (visits text).findSome? Visit.fault? = some f) := by
    intro f hf
    rw [visits, ← mapM_value_eq_error_iff, read]
    cases (documents text).1.mapM Document.value with
    | error f' => simp [bind, Except.bind]
    | ok vs =>
      cases (documents text).2 with
      | true => simp [bind, Except.bind, pure, Except.pure]
      | false => simpa [bind, Except.bind, throw, throwThe, MonadExceptOf.throw] using hf.symm
  constructor
  · rintro ⟨f, herror, hf⟩
    rw [hread f hf, List.findSome?_eq_bind_find?, Option.bind_eq_some_iff] at herror
    obtain ⟨v, hv, hfault⟩ := herror
    exact ⟨v, hv, Visit.misfit_iff_wild.2 ⟨f, Visit.fault?_eq_some_iff.1 hfault, hf⟩⟩
  · rintro ⟨v, hv, hmisfit⟩
    obtain ⟨f, hfault, hf⟩ := Visit.misfit_iff_wild.1 hmisfit
    refine ⟨f, ?_, hf⟩
    rw [hread f hf, List.findSome?_eq_bind_find?]
    exact Option.bind_eq_some_iff.2 ⟨v, hv, Visit.fault?_eq_some_iff.2 hfault⟩

end ProxyMaps.Yaml
