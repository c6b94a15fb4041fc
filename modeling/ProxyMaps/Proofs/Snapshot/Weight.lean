/-
The weights of a snapshot beside those of its document. A weight is the integer
that the document gives, as a number or as a numeral (`Value.Gives`), but of a
number with a fraction only its whole part is taken (`Value.DropsTo`). So weights
are as the document gives them, and other numbers are refused, unless one of them
has a fraction in a document that can be read, or what fails first breaks the
conversion of the document (`respectsWeights_iff`).
-/
import ProxyMaps.Proofs.Decimal.Grammar
import ProxyMaps.Proofs.Snapshot.Entries
import ProxyMaps.Proofs.Snapshot.Reported

namespace ProxyMaps

open Decimal (Binary64 Numeral)

/-- A number is an integer times a unit if the unit goes into it that often. -/
theorem Decimal.natCast_eq_mul_iff {u k : Nat} {n : Int} (hu : 0 < u) :
    (k : Int) = n * u ↔ k % u = 0 ∧ n = (k / u : Nat) := by
  constructor
  · intro h
    have hmod : (k : Int) % u = 0 := by rw [h, Int.mul_emod_left]
    have hdiv : (k : Int) / u = n := by rw [h, Int.mul_ediv_cancel n (by omega)]
    exact ⟨by exact_mod_cast hmod, by exact_mod_cast hdiv.symm⟩
  · intro h
    obtain ⟨hmod, rfl⟩ := h
    exact_mod_cast (Nat.div_mul_cancel (Nat.dvd_of_mod_eq_zero hmod)).symm

/-! ## One weight -/

namespace Value

/-- A value gives an integer: as a number that is equal to it, or as its numeral. -/
def Gives : Value → Int → Prop
  | bool b, n => n = if b then 1 else 0
  | int m, n => n = m
  | float (.finite negative k), n => Binary64.signed negative k = n * Binary64.unit
  | text s, n => ∃ x : Numeral, x.text = s.toList ∧ x.value = n
  | bytes bs, n => ∃ x : Numeral, x.text = bs.map Snapshot.asciiOf ∧ x.value = n
  | _, _ => False

/-- A number with a fraction has an integer as its whole part. -/
def DropsTo : Value → Int → Prop
  | float (.finite negative k), n =>
    k % Binary64.unit ≠ 0 ∧ n = Binary64.signed negative (k / Binary64.unit)
  | _, _ => False

/-- A number that is no integer: one with a fraction, an infinite one, or what is not a number. -/
def IsNoInteger (v : Value) : Prop := ∃ x, v = float x ∧ ∀ n, ¬ v.Gives n

theorem gives_finite_iff {negative : Bool} {k : Nat} {n : Int} :
    (float (.finite negative k)).Gives n ↔
      k % Binary64.unit = 0 ∧ n = Binary64.signed negative (k / Binary64.unit) := by
  cases negative with
  | false => exact Decimal.natCast_eq_mul_iff Binary64.unit_pos
  | true =>
    have hneg : -(k : Int) = n * Binary64.unit ↔ (k : Int) = -n * Binary64.unit := by
      rw [Int.neg_mul, Int.neg_eq_comm, eq_comm]
    have hvalue : -n = (k / Binary64.unit : Nat) ↔ n = -(k / Binary64.unit : Nat) := by omega
    show -(k : Int) = n * Binary64.unit ↔ k % Binary64.unit = 0 ∧ n = -(k / Binary64.unit : Nat)
    rw [hneg, Decimal.natCast_eq_mul_iff Binary64.unit_pos, hvalue]

/-- A number that is no integer has a fraction, unless it is not finite. -/
theorem IsNoInteger.cases {v : Value} (h : v.IsNoInteger) :
    (∃ n, v.DropsTo n) ∨ (∃ negative, v = float (.infinite negative)) ∨ v = float .nan := by
  obtain ⟨x, rfl, h⟩ := h
  cases x with
  | finite negative k =>
    refine .inl ⟨_, fun hmod => ?_, rfl⟩
    exact h _ (gives_finite_iff.2 ⟨hmod, rfl⟩)
  | infinite negative => exact .inr (.inl ⟨negative, rfl⟩)
  | nan => exact .inr (.inr rfl)

theorem DropsTo.isNoInteger {v : Value} {n : Int} (h : v.DropsTo n) : v.IsNoInteger := by
  unfold DropsTo at h
  split at h
  · exact ⟨_, rfl, fun m hm => h.1 (gives_finite_iff.1 hm).1⟩
  · cases h

end Value

namespace Snapshot

/-- A numeral is read as its value. -/
theorem exists_numeral_of_match {key : String} {t : List Char} {shown : List Char} {n : Int}
    (h : (match Decimal.Integer.read .decimal t with
      | .ok n => .ok n
      | .error f => .error (.weight key (numeralFault shown f)) : Except Fault Int) = .ok n) :
    ∃ x : Numeral, x.text = t ∧ x.value = n := by
  split at h
  next m hread =>
    cases h
    obtain ⟨x, htext, hvalue, -⟩ := Decimal.Integer.read_decimal_eq_ok_iff.1 hread
    exact ⟨x, htext, hvalue⟩
  · cases h

/-- What a weight is read as. -/
theorem gives_or_dropsTo_of_weightOf {key : String} {v : Value} {n : Int}
    (h : weightOf key v = .ok n) : v.Gives n ∨ v.DropsTo n := by
  unfold weightOf at h
  cases v with
  | bool b => exact .inl (Except.ok.inj h).symm
  | int m => exact .inl (Except.ok.inj h).symm
  | float x =>
    cases x with
    | finite negative k =>
      have hn : n = Binary64.signed negative (k / Binary64.unit) := (Except.ok.inj h).symm
      by_cases hwhole : k % Binary64.unit = 0
      · exact .inl (Value.gives_finite_iff.2 ⟨hwhole, hn⟩)
      · exact .inr ⟨hwhole, hn⟩
    | infinite negative | nan => cases h
  | text s => exact .inl (exists_numeral_of_match h)
  | bytes bs => exact .inl (exists_numeral_of_match h)
  | _ => cases h

/-! ## The weights of a document -/

/-- A value stands for a weight in a route of a document. -/
def IsWeight (v x : Value) : Prop :=
  ∃ route ∈ entriesOf v "routes", ∃ entry ∈ entriesOf route.2 "serviceUnits", entry.2 = x

/-- A snapshot has the weights that a document gives, each as the last entry for its names has
it. -/
def HasWeights (v : Value) (s : Snapshot) (Reads : Value → Int → Prop) : Prop :=
  ∀ key r, s.routes.find? key = some r → ∀ name n, r.weights.find? name = some n →
    ∃ route x, lastOf? (entriesOf v "routes") key = some route ∧
      lastOf? (entriesOf route "serviceUnits") name = some x ∧ Reads x n

/-- The weights of a document are taken as they are, and numbers that are no integers are
refused. -/
structure RespectsWeights (settings : Settings) (override : Override) (v : Value) : Prop where
  equal : ∀ s, ofValue settings override v = .ok s → HasWeights v s Value.Gives
  refused : ∀ x, IsWeight v x → x.IsNoInteger →
    ∃ f, ofValue settings override v = .error f ∧ f.Reported

/-- A document can be read, and a weight of it has a fraction. -/
def DropsFraction (override : Override) (v : Value) : Prop :=
  (∃ x n, IsWeight v x ∧ x.DropsTo n) ∧ ∀ r ∈ readings override v, r.fails = false

/-- The conversion of a document breaks, and a weight of it is a number that is no integer. -/
def BreaksBesideWeight (override : Override) (v : Value) : Prop :=
  (∃ x, IsWeight v x ∧ x.IsNoInteger) ∧ BreaksAt override v

section

variable {settings : Settings} {override : Override} {v x : Value} {s : Snapshot}

theorem IsWeight.exists_reading (h : IsWeight v x) (override : Override) :
    ∃ key, .weight key x ∈ readings override v := by
  obtain ⟨route, hroute, entry, hentry, rfl⟩ := h
  refine ⟨keyText route.1, ?_⟩
  have hweight : .weight (keyText route.1) entry.2 ∈ routeReadings (keyText route.1) route.2 := by
    have hread : .weight (keyText route.1) entry.2 ∈
        tableReadings (.weights (keyText route.1)) (fieldOf (entriesAt route.2) "serviceUnits")
          (.weightKey (keyText route.1)) fun _ v => [.weight (keyText route.1) v] :=
      List.mem_cons_of_mem _ (List.mem_flatMap.2 ⟨entry, hentry, by simp⟩)
    simp [routeReadings, hread]
  have hroutes : .weight (keyText route.1) entry.2 ∈
      tableReadings .routes (fieldOf (entriesAt v) "routes") .text routeReadings :=
    List.mem_cons_of_mem _ (List.mem_flatMap.2 ⟨route, hroute, by simp [hweight]⟩)
  simp [readings, hroutes]

/-- A document is read if none of its readings fails. -/
theorem exists_ofValue_eq_ok_iff :
    (∃ s, ofValue settings override v = .ok s) ↔ ∀ r ∈ readings override v, r.fails = false := by
  have hfault : faultOf (ofValue settings override v) = _ := follows_ofValue settings override v
  have hreadings : (readings override v).findSome? Reading.fault? = none ↔
      ∀ r ∈ readings override v, r.fails = false := by
    simp [Reading.fails]
  rw [← hreadings, ← hfault]
  cases ofValue settings override v <;> simp [faultOf]

theorem tableOf_routes_of_ofValue (h : ofValue settings override v = .ok s) :
    tableOf (entriesOf v "routes") textOf routeOf = .ok s.routes := by
  unfold ofValue at h
  obtain ⟨fields, hfields, h⟩ := exists_of_bind_eq_ok h
  obtain rfl := eq_entriesAt hfields
  obtain ⟨entries, hentries, h⟩ := exists_of_bind_eq_ok h
  obtain rfl := eq_entriesAt hentries
  obtain ⟨routes, hroutes, h⟩ := exists_of_bind_eq_ok h
  obtain ⟨entries, -, h⟩ := exists_of_bind_eq_ok h
  obtain ⟨units, -, h⟩ := exists_of_bind_eq_ok h
  obtain ⟨_ | dir, _ | http2Disabled⟩ := override
  all_goals
    obtain ⟨dir, -, h⟩ := exists_of_bind_eq_ok h
    obtain ⟨http2Disabled, -, h⟩ := exists_of_bind_eq_ok h
    cases h
    exact hroutes

/-- The weights of a snapshot are those of its document, but for fractions. -/
theorem hasWeights_of_ofValue (h : ofValue settings override v = .ok s) :
    HasWeights v s fun x n => x.Gives n ∨ x.DropsTo n := by
  intro key r hr name n hn
  obtain ⟨route, hroute, hread⟩ :=
    find?_of_tableOf display?_of_textOf (tableOf_routes_of_ofValue h) hr
  obtain ⟨x, hx, hweight⟩ :=
    find?_of_tableOf display?_of_weightKey (routeTables_of_routeOf hread).weights hn
  exact ⟨route, x, hroute, hx, gives_or_dropsTo_of_weightOf hweight⟩

theorem mem_of_lastOf? {entries : Fields} {key : String} (h : lastOf? entries key = some x) :
    ∃ e ∈ entries, e.2 = x := by
  obtain ⟨e, he, rfl⟩ := Option.map_eq_some_iff.1 h
  exact ⟨e, List.mem_reverse.1 (List.mem_of_find?_eq_some he), rfl⟩

theorem IsWeight.of_lastOf? {route : Value} {key name : String}
    (hroute : lastOf? (entriesOf v "routes") key = some route)
    (hx : lastOf? (entriesOf route "serviceUnits") name = some x) : IsWeight v x := by
  obtain ⟨e, he, rfl⟩ := mem_of_lastOf? hroute
  obtain ⟨e', he', rfl⟩ := mem_of_lastOf? hx
  exact ⟨e, he, e', he', rfl⟩

/-- If no fraction is dropped, a document that is read has no numbers that are no integers as
weights. -/
theorem IsWeight.not_isNoInteger (hx : IsWeight v x) (h : ofValue settings override v = .ok s)
    (hdrops : ¬ DropsFraction override v) : ¬ x.IsNoInteger := by
  intro hno
  have hreadings := exists_ofValue_eq_ok_iff.1 ⟨s, h⟩
  obtain ⟨key, hmem⟩ := hx.exists_reading override
  have hfails := hreadings _ hmem
  rcases hno.cases with ⟨n, hn⟩ | ⟨negative, rfl⟩ | rfl
  · exact hdrops ⟨⟨x, n, hx, hn⟩, hreadings⟩
  · cases hfails
  · cases hfails

/-- If no fraction is dropped, the weights of a snapshot are those of its document. -/
theorem hasWeights_of_not_dropsFraction (h : ofValue settings override v = .ok s)
    (hdrops : ¬ DropsFraction override v) : HasWeights v s Value.Gives := by
  intro key r hr name n hn
  obtain ⟨route, x, hroute, hx, hgives | hdropped⟩ := hasWeights_of_ofValue h key r hr name n hn
  · exact ⟨route, x, hroute, hx, hgives⟩
  · have hno := (IsWeight.of_lastOf? hroute hx).not_isNoInteger h hdrops
    exact absurd hdropped.isNoInteger hno

/-- A number that is no integer is refused as a weight, if none loses its fraction or breaks. -/
theorem IsWeight.refused (hx : IsWeight v x) (hno : x.IsNoInteger)
    (hdrops : ¬ DropsFraction override v) (hbreaks : ¬ BreaksBesideWeight override v) :
    ∃ f, ofValue settings override v = .error f ∧ f.Reported := by
  have hescapes := escapes_ofValue settings override (v := v)
  cases hresult : ofValue settings override v with
  | ok s => exact absurd hno (hx.not_isNoInteger hresult hdrops)
  | error f =>
    refine ⟨f, rfl, by_contra fun hreported => hbreaks ⟨⟨x, hx, hno⟩, ?_⟩⟩
    rw [← hescapes, hresult]
    exact escapes_error.2 hreported

/-- **The weights of a snapshot.** A document is read with its weights as it gives
them, and refused if a weight is a number that is no integer, exactly unless it is
read and a weight has a fraction, or such a number is in it and the first part of
it that cannot be read breaks its conversion. In a document that is read each
weight is the one that is given or what its fraction leaves of it. -/
theorem respectsWeights_iff (settings : Settings) (override : Override) (v : Value) :
    (RespectsWeights settings override v ↔
      ¬ (DropsFraction override v ∨ BreaksBesideWeight override v)) ∧
    ∀ s, ofValue settings override v = .ok s →
      HasWeights v s fun x n => x.Gives n ∨ x.DropsTo n := by
  refine ⟨?_, fun s => hasWeights_of_ofValue⟩
  constructor
  · intro h hbad
    rcases hbad with ⟨⟨x, n, hx, hn⟩, hreads⟩ | ⟨⟨x, hx, hno⟩, hbreaks⟩
    · obtain ⟨s, hs⟩ : ∃ s, ofValue settings override v = .ok s :=
        exists_ofValue_eq_ok_iff.2 hreads
      obtain ⟨f, hf, -⟩ := h.refused x hx hn.isNoInteger
      cases hs.symm.trans hf
    · obtain ⟨f, hf, hreported⟩ := h.refused x hx hno
      rw [← escapes_ofValue settings override (v := v), hf, escapes_error] at hbreaks
      exact hbreaks hreported
  · intro h
    obtain ⟨hdrops, hbreaks⟩ := not_or.1 h
    exact ⟨fun s hs => hasWeights_of_not_dropsFraction hs hdrops,
      fun x hx hno => hx.refused hno hdrops hbreaks⟩

end

/-- A route with the weight two and a half. -/
def halfWeighted : Value :=
  .mapping [(.text "routes", .mapping [(.text "shop", .mapping [(.text "serviceUnits",
    .mapping [(.text "cart", .float (.finite false (5 * Nat.pow 2 1073)))])])])]

/-- Two and a half is taken for two. -/
theorem not_respectsWeights_of_half :
    ¬ RespectsWeights {} {} halfWeighted ∧
      ∃ s r, ofValue {} {} halfWeighted = .ok s ∧ s.routes.find? "shop" = some r ∧
        r.weights.find? "cart" = some 2 := by
  obtain ⟨s, r, hs, hr, hweight⟩ : ∃ s r, ofValue {} {} halfWeighted = .ok s ∧
    s.routes.find? "shop" = some r ∧ r.weights.find? "cart" = some 2 :=
    ⟨_, _, rfl, rfl, by decide +kernel⟩
  refine ⟨fun h => ?_, s, r, hs, hr, hweight⟩
  have hdrops : (Value.float (.finite false (5 * Nat.pow 2 1073))).DropsTo 2 :=
    ⟨by decide +kernel, by decide +kernel⟩
  have hx : IsWeight halfWeighted (.float (.finite false (5 * Nat.pow 2 1073))) :=
    ⟨_, List.mem_cons_self, _, List.mem_cons_self, rfl⟩
  obtain ⟨f, hf, -⟩ := h.refused _ hx hdrops.isNoInteger
  cases hs.symm.trans hf

end Snapshot

end ProxyMaps
