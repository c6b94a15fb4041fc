/-
The maps of patterns hold the lines of the routes' entries, all of them and in
one order only: the lines of routes that cover a domain behind all others, and
each of the two blocks in descending order.

The blocks are told apart by how a line begins. That this is the same as what
the route is comes from `startsWith_line`: whatever its host, its path and its
key are, a line begins as the patterns of domains do exactly when its route
covers one.
-/
import ProxyMaps.Proofs.MapFile.Specificity

namespace ProxyMaps

open HostPattern

/-- A wildcard route whose host has a domain that is not empty. -/
def Route.CoversDomain (r : Route) : Prop :=
  r.wildcard = true ∧ ∃ domain, domain ≠ "" ∧ HasDomain r.host domain

theorem Route.coversDomain_iff {r : Route} :
    HostPattern.coversDomain r.host r.wildcard = true ↔ r.CoversDomain := by
  simp only [HostPattern.coversDomain, Bool.and_eq_true, Bool.not_eq_true',
    String.isEmpty_eq_false_iff, Route.CoversDomain]
  refine and_congr_right fun _ => ⟨fun h => ⟨_, h, hasDomain_parentDomain h⟩, fun h => ?_⟩
  obtain ⟨domain, hne, hdomain⟩ := h
  rw [hdomain.eq_parentDomain]
  exact hne

instance : DecidablePred Route.CoversDomain := fun _ =>
  decidable_of_iff _ Route.coversDomain_iff

namespace MapFile

/-- The lines of the entries that routes have in the map with a file name. -/
def linesOf (fileName : String) (routes : List (String × Route)) : List String :=
  routes.filterMap fun r =>
    ((Backend.ofRoute r.1 r.2 false).entryNamed? fileName).map fun e => e.key ++ " " ++ e.value

theorem map_line_entries (fileName : String) (s : Snapshot) :
    (entries fileName s).map line = linesOf fileName s.routes.entries := by
  rw [entries, List.map_filterMap]
  rfl

/-- Without a certificate the key of an entry is the pattern of its route, for its path or for
all. -/
theorem key_eq_route {fileName key : String} {r : Route} {e : MapEntry}
    (h : (Backend.ofRoute key r false).entryNamed? fileName = some e) :
    ∃ path, (path = r.path ∨ path = "") ∧ e.key = HostPattern.route r.host path r.wildcard := by
  obtain ⟨k, -, hin, rfl⟩ := entryNamed?_eq_some h
  cases k with
  | wildcardDomain =>
    have hwild : r.wildcard = true := hin
    exact ⟨"", .inr rfl, by rw [hwild]; rfl⟩
  | http | edgeReencrypt | httpRedirect => exact ⟨r.path, .inl rfl, rfl⟩
  | tcp | sniPassthrough => exact ⟨"", .inr rfl, rfl⟩
  | certificates => simp [Backend.belongsTo, Backend.ofRoute] at hin

theorem startsWith_line {fileName key : String} {r : Route} {e : MapEntry}
    (h : (Backend.ofRoute key r false).entryNamed? fileName = some e) :
    startsWith wildcardStart (line e) = decide r.CoversDomain := by
  obtain ⟨path, -, hkey⟩ := key_eq_route h
  have hstart := startsWith_wildcardStart r.host path e.value r.wildcard
  rw [← hkey] at hstart
  rw [hstart, Bool.eq_iff_iff, Route.coversDomain_iff, decide_eq_true_eq]

/-- To pick the lines with one beginning is to pick the routes of one kind. -/
theorem filter_linesOf (fileName : String) (routes : List (String × Route)) (b : Bool) :
    (linesOf fileName routes).filter (fun l => startsWith wildcardStart l = b) =
      linesOf fileName (routes.filter fun r => decide r.2.CoversDomain = b) := by
  rw [linesOf, linesOf, List.filter_filterMap, List.filterMap_filter]
  refine List.filterMap_congr fun r _ => ?_
  cases he : (Backend.ofRoute r.1 r.2 false).entryNamed? fileName with
  | none => simp
  | some e =>
    have hstart := startsWith_line he
    rw [line] at hstart
    rw [Option.map_some, Option.filter_some, hstart]

/-- The lines that begin, or do not begin, with a text, in descending order. -/
def block (start : String) (b : Bool) (ls : List String) : List String :=
  (descending ls).filter fun l => startsWith start l = b

theorem sortLines_eq_blocks (ls : List String) (start : String) :
    sortLines ls start = block start false ls ++ block start true ls := by
  have hfalse : ∀ l : String, decide (startsWith start l = false) = !startsWith start l := by
    intro l
    cases startsWith start l <;> rfl
  simp [sortLines, block, hfalse]

theorem pairwise_block (start : String) (b : Bool) (ls : List String) :
    (block start b ls).Pairwise fun l l' => l' ≤ l :=
  (pairwise_descending ls).filter _

theorem block_perm (fileName : String) (b : Bool) (routes : List (String × Route)) :
    (block wildcardStart b (linesOf fileName routes)).Perm
      (linesOf fileName (routes.filter fun r => decide r.2.CoversDomain = b)) := by
  rw [← filter_linesOf]
  exact (descending_perm _).filter _

/-- **Canonical order.** A map of patterns holds the lines of its entries and no
others; those of routes that cover a domain come last, both blocks are in
descending order, and the order of the routes is no matter. -/
theorem lines_canonical {settings : Settings} {fileName : String}
    (hmap : fileName ≠ settings.certificateMap) (s : Snapshot) :
    (lines settings fileName s).Perm (linesOf fileName s.routes.entries) ∧
    (∃ exact covering, lines settings fileName s = exact ++ covering ∧
      exact.Perm (linesOf fileName (s.routes.entries.filter fun r => ¬ r.2.CoversDomain)) ∧
      covering.Perm (linesOf fileName (s.routes.entries.filter fun r => r.2.CoversDomain)) ∧
      exact.Pairwise (fun a b => b ≤ a) ∧ covering.Pairwise (fun a b => b ≤ a) ∧
      ∀ l ∈ exact, l ∉ covering) ∧
    ∀ routes : Routes, routes.entries.Perm s.routes.entries →
      lines settings fileName { s with routes } = lines settings fileName s := by
  have hlines : ∀ t : Snapshot, lines settings fileName t =
      sortLines (linesOf fileName t.routes.entries) wildcardStart := by
    intro t
    rw [lines, if_neg hmap, map_line_entries]
  refine ⟨?_, ?_, ?_⟩
  · rw [hlines]
    exact sortLines_perm _ _
  · have hexact := block_perm fileName false s.routes.entries
    have hcovering := block_perm fileName true s.routes.entries
    refine ⟨_, _, (hlines s).trans (sortLines_eq_blocks _ _), ?_, ?_, pairwise_block _ _ _,
      pairwise_block _ _ _, ?_⟩
    · simpa using hexact
    · simpa using hcovering
    · -- the two blocks differ in how their lines begin
      intro l hl hl'
      simp only [block, List.mem_filter, decide_eq_true_eq] at hl hl'
      rw [hl.2] at hl'
      cases hl'.2
  · intro routes hperm
    have hsame : (linesOf fileName routes.entries).Perm (linesOf fileName s.routes.entries) :=
      hperm.filterMap _
    rw [hlines, hlines, sortLines, sortLines, descending_eq_of_perm hsame]

theorem lines_canonical_wildcard_last :
    let plain : String × Route := ("n:1", { host := "a.b" })
    let wild : String × Route := ("n:2", { host := "z.c", wildcard := true })
    let s : Snapshot := { routes := ⟨[wild, plain], by decide⟩ }
    MapKind.http.fileName ≠ ({} : Settings).certificateMap ∧
      (lines {} MapKind.http.fileName s).Perm
        ["^[^\\.]*\\.c(:[0-9]+)?(/.*)?$ be_http:n:2", "^a\\.b(:[0-9]+)?(/.*)?$ be_http:n:1"] ∧
      lines {} MapKind.http.fileName { s with routes := ⟨[plain, wild], by decide⟩ } =
        lines {} MapKind.http.fileName s := by
  intro plain wild s
  have hmap : MapKind.http.fileName ≠ ({} : Settings).certificateMap := by decide
  obtain ⟨hperm, -, horder⟩ := lines_canonical hmap s
  exact ⟨hmap, hperm.trans (.of_eq (by decide)), horder _ (.swap _ _ _)⟩

end MapFile

end ProxyMaps
