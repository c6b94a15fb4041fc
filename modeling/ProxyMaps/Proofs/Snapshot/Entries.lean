/-
What a snapshot keeps of the entries of its document. The keys of a mapping are
taken for their texts, so a table holds one entry for each text of a key, with
the value of the last key that has it (`Kept`, `find?_of_tableOf`). Nothing is
lost unless a text stands beside another scalar that is shown as that text
(`loses_only_clashing`).
-/
import ProxyMaps.Proofs.Snapshot.Reading
import ProxyMaps.Proofs.Table
import ProxyMaps.Proofs.Value.Scalar

namespace ProxyMaps.Snapshot

/-- The value of the last entry whose key has a text. -/
def lastOf? (entries : Fields) (key : String) : Option Value :=
  (entries.reverse.find? fun e => decide (e.1.display? = some key)).map Prod.snd

/-! ## Tables -/

section Table

variable {α : Type} {fields : Fields} {keyOf : Value → Except Fault String}
  {valueOf : String → Value → Except Fault α} {t : Table String α}

theorem exists_of_bind_eq_ok {β : Type} {x : Except Fault α} {g : α → Except Fault β} {b : β}
    (h : x >>= g = .ok b) : ∃ a, x = .ok a ∧ g a = .ok b := by
  cases x with
  | error f => cases h
  | ok a => exact ⟨a, rfl, h⟩

theorem display?_of_textOf {k : Value} {s : String} (h : textOf k = .ok s) :
    k.display? = some s := by
  unfold textOf at h
  split at h
  next hk =>
    cases h
    exact hk
  · cases h

theorem display?_of_weightKey {key s : String} {k : Value} (h : weightKey key k = .ok s) :
    k.display? = some s := by
  unfold weightKey at h
  split at h
  next hk =>
    cases h
    exact hk
  · cases h

/-- An entry of a table, read from an entry of a mapping. -/
def ReadFrom (valueOf : String → Value → Except Fault α) (e : Value × Value) (x : String × α) :
    Prop :=
  e.1.display? = some x.1 ∧ valueOf x.1 e.2 = .ok x.2

/-- A table is the table of its entries, each read from an entry of the mapping. -/
theorem tableOf_eq_ok (hkey : ∀ {k s}, keyOf k = .ok s → k.display? = some s)
    (h : tableOf fields keyOf valueOf = .ok t) :
    ∃ xs, List.Forall₂ (ReadFrom valueOf) fields xs ∧ t = .ofList xs := by
  unfold tableOf at h
  unfold Table.ofList
  -- entries are read behind any others, whose table is `t'`
  generalize Table.empty = t' at h ⊢
  induction fields generalizing t' with
  | nil =>
    cases h
    exact ⟨[], .nil, rfl⟩
  | cons e fields ih =>
    rw [List.foldlM_cons] at h
    obtain ⟨t'', hhead, htail⟩ := exists_of_bind_eq_ok h
    obtain ⟨key, hk, hhead⟩ := exists_of_bind_eq_ok hhead
    obtain ⟨a, hv, hhead⟩ := exists_of_bind_eq_ok hhead
    cases hhead
    obtain ⟨xs, hxs, rfl⟩ := ih _ htail
    exact ⟨(key, a) :: xs, .cons ⟨hkey hk, hv⟩ hxs, rfl⟩

/-- What is found among the entries of a table was read from what is found in the mapping. -/
theorem find?_readFrom {xs : List (String × α)} {x : String × α} {key : String}
    (hxs : List.Forall₂ (ReadFrom valueOf) fields xs)
    (h : (xs.find? fun x => decide (x.1 = key)) = some x) :
    ∃ e, (fields.find? fun e => decide (e.1.display? = some key)) = some e ∧
      ReadFrom valueOf e x := by
  induction hxs with
  | nil => cases h
  | @cons e y fields xs hread hxs ih =>
    have hsame : e.1.display? = some key ↔ y.1 = key := by
      rw [hread.1, Option.some.injEq]
    by_cases hy : y.1 = key
    · rw [List.find?_cons_of_pos (by simpa using hy)] at h
      cases h
      exact ⟨e, List.find?_cons_of_pos (by simpa using hsame.2 hy), hread⟩
    · rw [List.find?_cons_of_neg (by simpa using hy)] at h
      rw [List.find?_cons_of_neg (by simpa using fun he => hy (hsame.1 he))]
      exact ih h

/-- What a key of a table stands for was read from the last entry with that text. -/
theorem find?_of_tableOf (hkey : ∀ {k s}, keyOf k = .ok s → k.display? = some s)
    (h : tableOf fields keyOf valueOf = .ok t) {key : String} {a : α}
    (ha : t.find? key = some a) : ∃ v, lastOf? fields key = some v ∧ valueOf key v = .ok a := by
  obtain ⟨xs, hxs, rfl⟩ := tableOf_eq_ok hkey h
  rw [Table.find?_ofList, Option.map_eq_some_iff] at ha
  obtain ⟨x, hx, rfl⟩ := ha
  obtain ⟨e, he, hread⟩ := find?_readFrom (List.forall₂_reverse_iff.2 hxs) hx
  have hxkey : x.1 = key := by simpa using List.find?_some hx
  refine ⟨e.2, by rw [lastOf?, he]; rfl, ?_⟩
  rw [← hxkey]
  exact hread.2

end Table

/-- Entries as a mapping has them under scalars: the keys are different. -/
structure UnderScalars (entries : Fields) : Prop where
  scalar : ∀ e ∈ entries, e.1.IsScalar
  distinct : entries.Pairwise fun e f => e.1.sameKey f.1 = false

/-- What a table keeps of the entries of a mapping. -/
structure Kept {α : Type} (entries : Fields) (t : Table String α) : Prop where
  /-- There is one entry for each text of a key. -/
  size_eq : t.size = (entries.map fun e => e.1.display?).dedup.length
  /-- So all entries are there, unless the texts of two keys clash. -/
  size_eq_length_iff : UnderScalars entries →
    (t.size = entries.length ↔ entries.Pairwise fun e f => ¬ e.1.Clash f.1)

section Kept

variable {α : Type} {entries : Fields} {keyOf : Value → Except Fault String}
  {valueOf : String → Value → Except Fault α} {t : Table String α}

theorem map_display?_of_readFrom {xs : List (String × α)}
    (hxs : List.Forall₂ (ReadFrom valueOf) entries xs) :
    entries.map (fun e => e.1.display?) = (xs.map Prod.fst).map some := by
  induction hxs with
  | nil => rfl
  | cons hread _ ih => rw [List.map_cons, ih, hread.1, List.map_cons, List.map_cons]

/-- Keys that are scalars have different texts if none of them clash. -/
theorem nodup_display?_iff (h : UnderScalars entries)
    (hshown : ∀ e ∈ entries, ∃ s, e.1.display? = some s) :
    (entries.map fun e => e.1.display?).Nodup ↔
      entries.Pairwise fun e f => ¬ e.1.Clash f.1 := by
  rw [List.Nodup, List.pairwise_map]
  constructor
  · intro hne
    exact hne.imp fun hne hclash => hne hclash.display?_eq
  · intro hclash
    refine (h.distinct.and hclash).imp_of_mem fun {e f} he hf => ?_
    rintro ⟨hkey, hclash⟩ heq
    obtain ⟨s, hs⟩ := hshown e he
    exact hclash (Value.clash_of_display?_eq (h.scalar e he) (h.scalar f hf) hkey hs (heq ▸ hs))

theorem exists_display?_of_readFrom {xs : List (String × α)}
    (hxs : List.Forall₂ (ReadFrom valueOf) entries xs) :
    ∀ e ∈ entries, ∃ s, e.1.display? = some s := by
  intro e he
  have hmem : e.1.display? ∈ (xs.map Prod.fst).map some := by
    rw [← map_display?_of_readFrom hxs]
    exact List.mem_map_of_mem he
  obtain ⟨s, -, hs⟩ := List.mem_map.1 hmem
  exact ⟨s, hs.symm⟩

theorem kept_of_tableOf (hkey : ∀ {k s}, keyOf k = .ok s → k.display? = some s)
    (h : tableOf entries keyOf valueOf = .ok t) : Kept entries t := by
  obtain ⟨xs, hxs, rfl⟩ := tableOf_eq_ok hkey h
  have hsize : (Table.ofList xs).size = (entries.map fun e => e.1.display?).dedup.length := by
    rw [map_display?_of_readFrom hxs, List.dedup_map_of_injective (fun _ _ => Option.some.inj),
      List.length_map, Table.size_ofList]
  refine ⟨hsize, fun hscalars => ?_⟩
  rw [hsize, ← nodup_display?_iff hscalars (exists_display?_of_readFrom hxs), ← List.dedup_eq_self]
  constructor
  · intro hlength
    refine (List.dedup_sublist _).eq_of_length ?_
    rw [hlength, List.length_map]
  · intro hall
    rw [hall, List.length_map]

end Kept

/-! ## Documents -/

/-- The entries of the mapping in a field. -/
def entriesOf (v : Value) (name : String) : Fields := entriesAt (fieldOf (entriesAt v) name)

/-- The tables of a route hold what they can of the entries of a value. -/
structure RouteKept (v : Value) (r : Route) : Prop where
  certificates : Kept (entriesOf v "certificates") r.certificates
  annotations : Kept (entriesOf v "annotations") r.annotations
  weights : Kept (entriesOf v "serviceUnits") r.weights

/-- The tables of a route are read from the mappings of a value. -/
structure RouteTables (key : String) (v : Value) (r : Route) : Prop where
  certificates : tableOf (entriesOf v "certificates") textOf certificateOf = .ok r.certificates
  annotations : tableOf (entriesOf v "annotations") textOf (fun _ v => textOf v) = .ok r.annotations
  weights : tableOf (entriesOf v "serviceUnits") (weightKey key) (fun _ v => weightOf key v) =
    .ok r.weights

theorem routeTables_of_routeOf {key : String} {v : Value} {r : Route} (h : routeOf key v = .ok r) :
    RouteTables key v r := by
  unfold routeOf at h
  obtain ⟨fields, hfields, h⟩ := exists_of_bind_eq_ok h
  obtain rfl := eq_entriesAt hfields
  obtain ⟨termination, -, h⟩ := exists_of_bind_eq_ok h
  obtain ⟨policy, -, h⟩ := exists_of_bind_eq_ok h
  obtain ⟨entries, hentries, h⟩ := exists_of_bind_eq_ok h
  obtain rfl := eq_entriesAt hentries
  obtain ⟨certificates, hcertificates, h⟩ := exists_of_bind_eq_ok h
  obtain ⟨entries, hentries, h⟩ := exists_of_bind_eq_ok h
  obtain rfl := eq_entriesAt hentries
  obtain ⟨annotations, hannotations, h⟩ := exists_of_bind_eq_ok h
  obtain ⟨entries, hentries, h⟩ := exists_of_bind_eq_ok h
  obtain rfl := eq_entriesAt hentries
  obtain ⟨weights, hweights, h⟩ := exists_of_bind_eq_ok h
  obtain ⟨name, -, h⟩ := exists_of_bind_eq_ok h
  obtain ⟨nameSpace, -, h⟩ := exists_of_bind_eq_ok h
  obtain ⟨host, -, h⟩ := exists_of_bind_eq_ok h
  obtain ⟨path, -, h⟩ := exists_of_bind_eq_ok h
  obtain ⟨wildcard, -, h⟩ := exists_of_bind_eq_ok h
  obtain ⟨preferredPort, -, h⟩ := exists_of_bind_eq_ok h
  cases h
  exact ⟨hcertificates, hannotations, hweights⟩

theorem routeKept_of_routeOf {key : String} {v : Value} {r : Route} (h : routeOf key v = .ok r) :
    RouteKept v r := by
  have htables := routeTables_of_routeOf h
  exact ⟨kept_of_tableOf display?_of_textOf htables.certificates,
    kept_of_tableOf display?_of_textOf htables.annotations,
    kept_of_tableOf display?_of_weightKey htables.weights⟩

/-- **What loading keeps.** Of the routes, of the services, and inside of each route
of its certificates, annotations and weights, loading keeps one entry for each text
of a key. These are all entries of a mapping under scalars exactly if no two keys
clash. A route is read from the last entry that has its key. -/
theorem loses_only_clashing {settings : Settings} {override : Override} {v : Value} {s : Snapshot}
    (h : ofValue settings override v = .ok s) :
    Kept (entriesOf v "routes") s.routes ∧ Kept (entriesOf v "serviceUnits") s.units ∧
      ∀ key r, s.routes.find? key = some r →
        ∃ w, lastOf? (entriesOf v "routes") key = some w ∧ RouteKept w r := by
  unfold ofValue at h
  obtain ⟨fields, hfields, h⟩ := exists_of_bind_eq_ok h
  obtain rfl := eq_entriesAt hfields
  obtain ⟨entries, hentries, h⟩ := exists_of_bind_eq_ok h
  obtain rfl := eq_entriesAt hentries
  obtain ⟨routes, hroutes, h⟩ := exists_of_bind_eq_ok h
  obtain ⟨entries, hentries, h⟩ := exists_of_bind_eq_ok h
  obtain rfl := eq_entriesAt hentries
  obtain ⟨units, hunits, h⟩ := exists_of_bind_eq_ok h
  have hs : s.routes = routes ∧ s.units = units := by
    obtain ⟨_ | dir, _ | http2Disabled⟩ := override
    all_goals
      obtain ⟨dir, -, h⟩ := exists_of_bind_eq_ok h
      obtain ⟨http2Disabled, -, h⟩ := exists_of_bind_eq_ok h
      cases h
      exact ⟨rfl, rfl⟩
  obtain ⟨rfl, rfl⟩ := hs
  refine ⟨kept_of_tableOf display?_of_textOf hroutes,
    kept_of_tableOf display?_of_textOf hunits, fun key r hr => ?_⟩
  obtain ⟨w, hw, hread⟩ := find?_of_tableOf display?_of_textOf hroutes hr
  exact ⟨w, hw, routeKept_of_routeOf hread⟩

/-- A route with annotations under keys of three types. -/
def annotated : Value :=
  .mapping [(.text "annotations", .mapping [
    (.bool true, .int 1), (.float .zero, .null), (.null, .text "None")])]

/-- Two routes under an integer and its text. -/
def spelledTwice : Value :=
  .mapping [(.text "routes", .mapping [(.int 1, .null), (.text "1", annotated)])]

theorem loses_only_clashing_spelledTwice :
    ∃ s r, ofValue {} {} spelledTwice = .ok s ∧ s.routes.find? "1" = some r ∧
      UnderScalars (entriesOf spelledTwice "routes") ∧ s.routes.size = 1 ∧
      r.annotations.size = 3 := by
  obtain ⟨s, r, hs, hr⟩ : ∃ s r, ofValue {} {} spelledTwice = .ok s ∧
    s.routes.find? "1" = some r := ⟨_, _, rfl, rfl⟩
  obtain ⟨hroutes, -, hinside⟩ := loses_only_clashing hs
  obtain ⟨w, hw, hkept⟩ := hinside "1" r hr
  obtain rfl : annotated = w := Option.some.inj hw
  have hkeys : UnderScalars (entriesOf spelledTwice "routes") :=
    ⟨List.forall_mem_cons.2 ⟨.int 1, List.forall_mem_singleton.2 (.text "1")⟩, by decide⟩
  have hzero : Decimal.Binary64.zero.WellFormed := ⟨⟨0, rfl⟩, by decide +kernel⟩
  refine ⟨s, r, hs, hr, hkeys, hroutes.size_eq, ?_⟩
  refine (hkept.annotations.size_eq_length_iff ⟨?_, by decide +kernel⟩).2 ?_
  · exact List.forall_mem_cons.2 ⟨.bool true, List.forall_mem_cons.2 ⟨.float hzero,
      List.forall_mem_singleton.2 .null⟩⟩
  · have htexts : (entriesOf annotated "annotations").Pairwise fun e f =>
        e.1.display? ≠ f.1.display? := by decide
    exact htexts.imp fun hne hclash => hne hclash.display?_eq

theorem loses_text_of_integer :
    ∃ s, ofValue {} {} spelledTwice = .ok s ∧ UnderScalars (entriesOf spelledTwice "routes") ∧
      (entriesOf spelledTwice "routes").length = 2 ∧ s.routes.size = 1 := by
  refine ⟨_, rfl, ⟨?_, by decide⟩, rfl, rfl⟩
  exact List.forall_mem_cons.2 ⟨.int 1, List.forall_mem_singleton.2 (.text "1")⟩

end ProxyMaps.Snapshot
