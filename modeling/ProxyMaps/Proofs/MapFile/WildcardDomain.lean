/-
The map of wildcard domains is looked up before the maps of routes, so it has
to let through whatever one of them has a backend for. A wildcard route is in
it under the pattern for all paths of its hosts, and that pattern finds every
request that the pattern of a path finds, as long as the path starts where the
paths of requests do (`Serves.anyPath`).
-/
import ProxyMaps.Proofs.MapFile.Canonical

namespace ProxyMaps

namespace HostPattern

/-- A path that can be the path of a request: it is empty or starts with a slash. -/
def IsRequestPath (path : String) : Prop := path = "" ∨ ∃ rest, path = "/" ++ rest

theorem ServesPath.anyPath {path s : String} (hpath : IsRequestPath path) (h : ServesPath path s) :
    ServesPath "" s := by
  have hempty : OnlySlashes "" := by simp [OnlySlashes]
  rcases hpath with rfl | ⟨rest, rfl⟩
  · exact h
  by_cases hroot : OnlySlashes ("/" ++ rest)
  · exact ⟨fun _ => h.1 hroot, fun hne => absurd hempty hne, fun hne => absurd hempty hne⟩
  · exact h.of_below (.root hempty hroot)

/-- A route serves what it would serve with a path, if it has none. -/
theorem Serves.anyPath {host path s : String} {wildcard : Bool} (hpath : IsRequestPath path)
    (h : Serves host path wildcard s) : Serves host "" wildcard s := by
  obtain ⟨a, b, t, rfl, ha, hb, ht⟩ := h
  exact ⟨a, b, t, rfl, ha, hb, ht.anyPath hpath⟩

end HostPattern

namespace MapFile

open HostPattern Regex

theorem mem_lines {settings : Settings} {fileName : String}
    (hmap : fileName ≠ settings.certificateMap) {s : Snapshot} {e : MapEntry}
    (he : e ∈ entries fileName s) : line e ∈ lines settings fileName s := by
  rw [lines, if_neg hmap]
  exact (sortLines_perm _ _).mem_iff.2 (List.mem_map_of_mem he)

/-- A wildcard route with an entry in any map has one in the map of wildcard domains. -/
theorem wildcardDomain_mem_entries {fileName : String} {s : Snapshot} {r : String × Route}
    (hr : r ∈ s.routes.entries) (hwild : r.2.wildcard = true) {e : MapEntry}
    (he : (Backend.ofRoute r.1 r.2 false).entryNamed? fileName = some e) :
    ⟨route r.2.host "" true, "1"⟩ ∈ entries MapKind.wildcardDomain.fileName s := by
  obtain ⟨k, -, hentry⟩ := Option.bind_eq_some_iff.1 he
  have hhost : r.2.host.isEmpty = false := by
    simp only [Backend.entryOf?, Bool.and_eq_true, Option.ite_none_right_eq_some,
      Bool.not_eq_true'] at hentry
    exact hentry.1.1
  refine List.mem_filterMap.2 ⟨r, hr, ?_⟩
  rw [Backend.entryNamed?, MapKind.ofFileName?_fileName, Option.bind_some, Backend.entryOf?]
  simp [Backend.ofRoute, hhost, Backend.belongsTo, hwild, Backend.entryIn]

/-- **Wildcard domains.** For every wildcard route that is in some map, under
a path that requests can have, the map of wildcard domains has a line whose
pattern finds each request of one line that the pattern of the route finds. -/
theorem wildcardDomain_covers [Text.CharacterNames] {settings : Settings}
    (hmap : MapKind.wildcardDomain.fileName ≠ settings.certificateMap) {s : Snapshot}
    {r : String × Route} (hr : r ∈ s.routes.entries) (hwild : r.2.wildcard = true)
    (hpath : IsRequestPath r.2.path) {fileName : String} {e : MapEntry}
    (he : (Backend.ofRoute r.1 r.2 false).entryNamed? fileName = some e) :
    ∃ d ∈ entries MapKind.wildcardDomain.fileName s,
      line d ∈ lines settings MapKind.wildcardDomain.fileName s ∧
      ∃ pd pe, Pattern.compile d.key = .ok pd ∧ Pattern.compile e.key = .ok pe ∧
        ∀ request : String, '\n' ∉ request.toList →
          pe.matchesIn request = true → pd.matchesIn request = true := by
  have hmem := wildcardDomain_mem_entries hr hwild he
  obtain ⟨path, hown, hkey⟩ := key_eq_route he
  have hown : IsRequestPath path := hown.elim (fun h => h ▸ hpath) .inl
  rw [hwild] at hkey
  refine ⟨_, hmem, mem_lines hmap hmem, ?_⟩
  rw [hkey]
  refine ⟨_, _, compile_route _ _ _, compile_route _ _ _, fun request hline h => ?_⟩
  rw [matchesIn_route_iff (compile_route _ _ _) hline] at h ⊢
  exact h.anyPath hown

theorem wildcardDomain_covers_redirect :
    let r : String × Route := ("n:1",
      { host := "a.b", path := "/x", wildcard := true, insecurePolicy := .redirect })
    let s : Snapshot := { routes := ⟨[r], by decide⟩ }
    IsRequestPath r.2.path ∧
      (Backend.ofRoute r.1 r.2 false).entryNamed? MapKind.httpRedirect.fileName =
        some ⟨"^[^\\.]*\\.b(:[0-9]+)?/x(/.*)?$", "n:1"⟩ ∧
      ∃ d ∈ entries MapKind.wildcardDomain.fileName s,
        line d ∈ lines {} MapKind.wildcardDomain.fileName s ∧
        ∃ pd pe, Pattern.compile d.key = .ok pd ∧
          Pattern.compile "^[^\\.]*\\.b(:[0-9]+)?/x(/.*)?$" = .ok pe ∧
          ∀ request : String, '\n' ∉ request.toList →
            pe.matchesIn request = true → pd.matchesIn request = true := by
  intro r s
  have hpath : IsRequestPath r.2.path := .inr ⟨"x", by decide⟩
  have he : (Backend.ofRoute r.1 r.2 false).entryNamed? MapKind.httpRedirect.fileName =
      some ⟨"^[^\\.]*\\.b(:[0-9]+)?/x(/.*)?$", "n:1"⟩ := by decide
  have hr : r ∈ s.routes.entries := by simp [s]
  exact ⟨hpath, he, wildcardDomain_covers (by decide) hr rfl hpath he⟩

end MapFile

end ProxyMaps
