/-
First match and specificity: of two routes of one host, the one whose path lies
below the other's should come first in a map, since the other's pattern finds
all its requests too (`Serves.of_below`).

Lines are compared as texts, so what decides is the first character behind the
common path: it is compared with the bracket that opens the group for all that
is below the shorter path (`Below.exists_next`). Every character that can stand
there sorts behind the bracket, except where the shorter path ends with a slash
and so lets any character follow (`Overtaken`).
-/
import ProxyMaps.Proofs.HostPattern.RouteLanguage
import ProxyMaps.Proofs.MapFile.Order

namespace ProxyMaps

/-! ## Paths below paths -/

namespace HostPattern

/-- A path lies strictly below another. -/
inductive Below : String → String → Prop where
  /-- Below nothing but slashes is every path that starts with a slash and has more than slashes. -/
  | root {p r : String} : OnlySlashes p → ¬ OnlySlashes ("/" ++ r) → Below p ("/" ++ r)
  /-- Below a path that ends with a slash is whatever goes on. -/
  | directory {p r : String} : ¬ OnlySlashes p → EndsInSlash p → r ≠ "" → Below p (p ++ r)
  /-- Below any other path is whatever goes on with a slash. -/
  | file {p r : String} : ¬ OnlySlashes p → ¬ EndsInSlash p → Below p (p ++ "/" ++ r)

/-- A path ends with a slash and the other goes on with a character that sorts before a bracket. -/
def Overtaken (p q : String) : Prop :=
  ¬ OnlySlashes p ∧ EndsInSlash p ∧
    ∃ c r, q.toList = p.toList ++ c :: r ∧ c < '(' ∧ c ≠ '$'

theorem pathText_of_not_onlySlashes {p : String} (h : ¬ OnlySlashes p) :
    pathText p = p.toList := by
  rw [pathText, if_neg (mt isRoot_iff.1 h)]

theorem OnlySlashes.of_append {p r : String} (h : OnlySlashes (p ++ r)) : OnlySlashes p :=
  fun c hc => h c (by simp [hc])

/-- The texts of paths, one below the other, and the character behind the common part. -/
theorem Below.exists_next {p q : String} (h : Below p q) :
    ∃ c r, pathText q = pathText p ++ c :: r ∧ (needsSlash p = true → c = '/') ∧
      (Overtaken p q ↔ c < '(' ∧ c ≠ '$') := by
  have hslash : "/".toList = ['/'] := rfl
  have hlt : ¬ ('/' < '(' ∧ '/' ≠ '$') := by decide
  cases h with
  | @root r hp hq =>
    refine ⟨'/', r.toList, ?_, fun _ => rfl, ?_⟩
    · rw [pathText_of_not_onlySlashes hq, pathText, if_pos (isRoot_iff.2 hp), String.toList_append,
        hslash, List.singleton_append, List.nil_append]
    · exact iff_of_false (fun h => h.1 hp) hlt
  | @directory r hp he hr =>
    obtain ⟨c, r', hr'⟩ := List.exists_cons_of_ne_nil (mt String.toList_eq_nil_iff.1 hr)
    have hq : (p ++ r).toList = p.toList ++ c :: r' := by rw [String.toList_append, hr']
    refine ⟨c, r', ?_, fun hn => ?_, ?_⟩
    · rw [pathText_of_not_onlySlashes hp, pathText_of_not_onlySlashes (mt OnlySlashes.of_append hp),
        hq]
    · simp [needsSlash, endsWithSlash_iff.2 he, mt isRoot_iff.1 hp] at hn
    · constructor
      · intro h
        obtain ⟨-, -, d, r'', hd, hc⟩ := h
        rw [hq, List.append_cancel_left_eq, List.cons.injEq] at hd
        exact hd.1 ▸ hc
      · exact fun hc => ⟨hp, he, c, r', hq, hc⟩
  | @file r hp he =>
    refine ⟨'/', r.toList, ?_, fun _ => rfl, ?_⟩
    · have hq : ¬ OnlySlashes (p ++ "/" ++ r) := fun h => hp h.of_append.of_append
      rw [pathText_of_not_onlySlashes hp, pathText_of_not_onlySlashes hq, String.toList_append,
        String.toList_append, hslash, List.append_assoc, List.singleton_append]
    · exact iff_of_false (fun h => he h.2.1) hlt

theorem ServesPath.of_below {p q t : String} (h : Below p q) (ht : ServesPath q t) :
    ServesPath p t := by
  obtain ⟨c, r, hq, hc, -⟩ := h.exists_next
  have hstart : ∃ x, t.toList = pathText p ++ c :: x := by
    rcases servesPath_iff.1 ht with ht | ⟨x, ht⟩
    · exact ⟨r, ht.trans hq⟩
    · exact ⟨r ++ ((if needsSlash q then ['/'] else []) ++ x), by simp [ht, hq]⟩
  obtain ⟨x, ht⟩ := hstart
  rw [servesPath_iff]
  cases hn : needsSlash p with
  | true => exact .inr ⟨x, by simp [ht, hc hn]⟩
  | false => exact .inr ⟨c :: x, by simp [ht]⟩

/-- A route serves every request that one of its host with a path below its own serves. -/
theorem Serves.of_below {host p q s : String} {wildcard : Bool} (h : Below p q)
    (hs : Serves host q wildcard s) : Serves host p wildcard s := by
  obtain ⟨a, b, t, rfl, ha, hb, ht⟩ := hs
  exact ⟨a, b, t, rfl, ha, hb, ht.of_below h⟩

end HostPattern

namespace MapFile

open HostPattern Regex

/-! ## The order of two lines -/

theorem quoteChar_lt {c : Char} (h : c < '(' ∧ c ≠ '$') (u v : List Char) :
    quoteChar c ++ u < '(' :: v := by
  have hc : c ∉ special := by
    intro hm
    have hall : ∀ d ∈ special, ¬ (d < '(' ∧ d ≠ '$') := by simp [special]
    exact hall c hm h
  have hq : quoteChar c = [c] := by simp [quoteChar, hc]
  rw [hq, List.singleton_append]
  exact List.cons_lt_cons_iff.2 (.inl h.1)

theorem lt_quoteChar {c : Char} (h : ¬ (c < '(' ∧ c ≠ '$')) (u v : List Char) :
    '(' :: v < quoteChar c ++ u := by
  by_cases hc : c ∈ special
  · have hq : quoteChar c = ['\\', c] := by simp [quoteChar, hc]
    rw [hq, List.cons_append]
    exact List.cons_lt_cons_iff.2 (.inl (by decide))
  · have hq : quoteChar c = [c] := by simp [quoteChar, hc]
    have hne : c ≠ '$' ∧ '(' ≠ c := by
      constructor <;> rintro rfl <;> exact hc (by decide)
    rw [hq, List.singleton_append]
    refine List.cons_lt_cons_iff.2 (.inl ?_)
    exact Std.lt_of_le_of_ne (Char.not_lt.1 fun hlt => h ⟨hlt, hne.1⟩) hne.2

/-- Up to its path the line of a route depends on the host alone; behind its path is a bracket. -/
theorem exists_toList_line (host : String) (wildcard : Bool) :
    ∃ front, ∀ path value : String, ∃ rest, (line ⟨route host path wildcard, value⟩).toList =
      front ++ ((pathText path).flatMap quoteChar ++ '(' :: rest) := by
  refine ⟨'^' :: ((hostPart host wildcard).toList ++ "(:[0-9]+)?".toList), fun path value => ?_⟩
  refine ⟨(if needsSlash path then "/.*)?" else ".*)?").toList ++ '$' :: (" " ++ value).toList, ?_⟩
  cases hn : needsSlash path <;>
    simp [line, toList_route, hn]

theorem line_lt_line {host p q : String} {wildcard : Bool} (h : Below p q) (va vb : String) :
    (¬ Overtaken p q →
      line ⟨route host p wildcard, va⟩ < line ⟨route host q wildcard, vb⟩) ∧
    (Overtaken p q →
      line ⟨route host q wildcard, vb⟩ < line ⟨route host p wildcard, va⟩) := by
  obtain ⟨front, hfront⟩ := exists_toList_line host wildcard
  obtain ⟨resta, ha⟩ := hfront p va
  obtain ⟨restb, hb⟩ := hfront q vb
  obtain ⟨c, r, hq, -, hover⟩ := h.exists_next
  rw [hq, List.flatMap_append, List.flatMap_cons, List.append_assoc, List.append_assoc] at hb
  rw [String.lt_iff, String.lt_iff, ha, hb, hover]
  exact ⟨fun hc => List.append_left_lt (List.append_left_lt (lt_quoteChar hc _ _)),
    fun hc => List.append_left_lt (List.append_left_lt (quoteChar_lt hc _ _))⟩

/-! ## Lines of wildcard hosts -/

/-- Exactly the lines of routes that cover a domain begin as patterns for domains do. -/
theorem startsWith_wildcardStart (host path value : String) (wildcard : Bool) :
    startsWith wildcardStart (line ⟨route host path wildcard, value⟩) =
      coversDomain host wildcard := by
  have hstart : wildcardStart.toList = '^' :: (anyLabel.toList ++ quoteChar '.') := by decide
  have hline : ∃ rest, (line ⟨route host path wildcard, value⟩).toList =
      '^' :: ((hostPart host wildcard).toList ++ '(' :: rest) :=
    ⟨":[0-9]+)?".toList ++ ((pathText path).flatMap quoteChar ++
      ((if needsSlash path then "(/.*)?" else "(.*)?").toList ++ '$' :: (" " ++ value).toList)),
      by simp [line, toList_route]⟩
  obtain ⟨rest, hline⟩ := hline
  rw [startsWith, hline, toList_hostPart]
  cases hc : coversDomain host wildcard with
  | true =>
    rw [if_pos rfl, hstart, ← List.append_assoc anyLabel.toList, List.append_assoc,
      ← List.cons_append]
    exact List.isPrefixOf_iff_prefix.2 (List.prefix_append _ _)
  | false =>
    have hlabel : anyLabel.toList = '[' :: "^\\.]*".toList := rfl
    have hother : ∀ (d : Char) (u : List Char), d ≠ '[' →
        wildcardStart.toList.isPrefixOf ('^' :: d :: u) = false := by
      intro d u hd
      rw [hstart, hlabel]
      simp [List.isPrefixOf, hd.symm]
    rw [if_neg (by decide)]
    cases host.toList with
    | nil => exact hother _ _ (by decide)
    | cons c cs =>
      by_cases hq : c ∈ special
      · have h : quoteChar c = ['\\', c] := by simp [quoteChar, hq]
        rw [List.flatMap_cons, h]
        exact hother _ _ (by decide)
      · have h : quoteChar c = [c] := by simp [quoteChar, hq]
        rw [List.flatMap_cons, h]
        exact hother _ _ fun hc => hq (hc ▸ by decide)

/-! ## Two routes of one host in a map -/

theorem entryNamed?_eq_some {b : Backend} {fileName : String} {e : MapEntry}
    (h : b.entryNamed? fileName = some e) :
    ∃ k, MapKind.ofFileName? fileName = some k ∧ b.belongsTo k = true ∧ e = b.entryIn k := by
  obtain ⟨k, hk, he⟩ := Option.bind_eq_some_iff.1 h
  refine ⟨k, hk, ?_⟩
  simp only [Backend.entryOf?, Bool.and_eq_true, Option.ite_none_right_eq_some,
    Option.some.injEq] at he
  exact ⟨he.1.2, he.2.symm⟩

/-- Routes of one host have different keys only in maps whose keys are the routes' own patterns. -/
theorem keys_of_ne {fileName ka kb : String} {ra rb : Route} {ea eb : MapEntry}
    (ha : (Backend.ofRoute ka ra false).entryNamed? fileName = some ea)
    (hb : (Backend.ofRoute kb rb false).entryNamed? fileName = some eb)
    (hhost : ra.host = rb.host) (hwild : ra.wildcard = rb.wildcard) (hkey : ea.key ≠ eb.key) :
    ea.key = route ra.host ra.path ra.wildcard ∧ eb.key = route ra.host rb.path ra.wildcard := by
  obtain ⟨k, hk, hina, rfl⟩ := entryNamed?_eq_some ha
  obtain ⟨k', hk', -, rfl⟩ := entryNamed?_eq_some hb
  obtain rfl : k = k' := Option.some.inj (hk.symm.trans hk')
  cases k with
  | http | edgeReencrypt | httpRedirect => exact ⟨rfl, by rw [hhost, hwild]; rfl⟩
  | wildcardDomain | tcp | sniPassthrough =>
    exact absurd (by simp [Backend.entryIn, Backend.hostPattern, Backend.ofRoute, hhost, hwild])
      hkey
  | certificates => simp [Backend.belongsTo, Backend.ofRoute] at hina

theorem line_mem {fileName : String} {s : Snapshot} {r : String × Route}
    (hr : r ∈ s.routes.entries) {e : MapEntry}
    (he : (Backend.ofRoute r.1 r.2 false).entryNamed? fileName = some e) :
    line e ∈ (entries fileName s).map line :=
  List.mem_map_of_mem (List.mem_filterMap.2 ⟨r, hr, he⟩)

/-- **First match and specificity.** Of two routes of one host with keys of
their own in a map, the first with a pattern that finds every request of the
second, whose path lies below its own, the second has its line first, unless it
is overtaken, and then it has not. -/
theorem precedes_iff_not_overtaken [Text.CharacterNames] {settings : Settings} {fileName : String}
    (hmap : fileName ≠ settings.certificateMap) {s : Snapshot} {a b : String × Route}
    (ha : a ∈ s.routes.entries) (hb : b ∈ s.routes.entries) (hhost : a.2.host = b.2.host)
    (hwild : a.2.wildcard = b.2.wildcard) {ea eb : MapEntry}
    (hea : (Backend.ofRoute a.1 a.2 false).entryNamed? fileName = some ea)
    (heb : (Backend.ofRoute b.1 b.2 false).entryNamed? fileName = some eb)
    (hkey : ea.key ≠ eb.key) (hbelow : Below a.2.path b.2.path) :
    (∃ pa pb, Pattern.compile ea.key = .ok pa ∧ Pattern.compile eb.key = .ok pb ∧
      ∀ request : String, '\n' ∉ request.toList →
        pb.matchesIn request = true → pa.matchesIn request = true) ∧
    (Precedes (line eb) (line ea) (lines settings fileName s) ↔
      ¬ Overtaken a.2.path b.2.path) ∧
    (Overtaken a.2.path b.2.path →
      Precedes (line ea) (line eb) (lines settings fileName s)) := by
  obtain ⟨hka, hkb⟩ := keys_of_ne hea heb hhost hwild hkey
  obtain ⟨_, va⟩ := ea
  obtain ⟨_, vb⟩ := eb
  simp only at hka hkb
  subst hka hkb
  have hma := line_mem ha hea
  have hmb := line_mem hb heb
  have hstart : startsWith wildcardStart (line ⟨route a.2.host b.2.path a.2.wildcard, vb⟩) =
      startsWith wildcardStart (line ⟨route a.2.host a.2.path a.2.wildcard, va⟩) := by
    rw [startsWith_wildcardStart, startsWith_wildcardStart]
  obtain ⟨hfirst, hlast⟩ := line_lt_line hbelow va vb
  rw [lines, if_neg hmap]
  refine ⟨⟨_, _, compile_route _ _ _, compile_route _ _ _, fun request hline h => ?_⟩, ⟨?_, ?_⟩, ?_⟩
  · rw [matchesIn_route_iff (compile_route _ _ _) hline] at h ⊢
    exact h.of_below hbelow
  · intro h hover
    exact h.not_symm (precedes_sortLines hma hmb hstart.symm (hlast hover))
  · exact fun hover => precedes_sortLines hmb hma hstart (hfirst hover)
  · exact fun hover => precedes_sortLines hma hmb hstart.symm (hlast hover)

theorem precedes_of_longer_path :
    let a : String × Route := ("n:1", { host := "a.b", path := "/x" })
    let b : String × Route := ("n:2", { host := "a.b", path := "/x/y" })
    let s : Snapshot := { routes := ⟨[a, b], by decide⟩ }
    Below a.2.path b.2.path ∧
      Precedes "^a\\.b(:[0-9]+)?/x/y(/.*)?$ be_http:n:2" "^a\\.b(:[0-9]+)?/x(/.*)?$ be_http:n:1"
        (lines {} MapKind.http.fileName s) := by
  intro a b s
  have hroot : ¬ OnlySlashes "/x" := fun h => absurd (h 'x' (by decide)) (by decide)
  have hend : ¬ EndsInSlash "/x" := mt endsWithSlash_iff.2 (by decide)
  have hbelow : Below a.2.path b.2.path := .file (p := "/x") (r := "y") hroot hend
  have hea : (Backend.ofRoute a.1 a.2 false).entryNamed? MapKind.http.fileName =
      some ⟨"^a\\.b(:[0-9]+)?/x(/.*)?$", "be_http:n:1"⟩ := by decide
  have heb : (Backend.ofRoute b.1 b.2 false).entryNamed? MapKind.http.fileName =
      some ⟨"^a\\.b(:[0-9]+)?/x/y(/.*)?$", "be_http:n:2"⟩ := by decide
  have ha : a ∈ s.routes.entries := by simp [s]
  have hb : b ∈ s.routes.entries := by simp [s]
  exact ⟨hbelow, (precedes_iff_not_overtaken (by decide) ha hb rfl rfl hea heb (by decide)
    hbelow).2.1.2 fun h => hend h.2.1⟩

theorem not_precedes_of_percent :
    let a : String × Route := ("n:1", { host := "a.b", path := "/x/" })
    let b : String × Route := ("n:2", { host := "a.b", path := "/x/%20" })
    let s : Snapshot := { routes := ⟨[a, b], by decide⟩ }
    a ∈ s.routes.entries ∧ b ∈ s.routes.entries ∧ Below a.2.path b.2.path ∧
      ∃ ea eb, (Backend.ofRoute a.1 a.2 false).entryNamed? MapKind.http.fileName = some ea ∧
        (Backend.ofRoute b.1 b.2 false).entryNamed? MapKind.http.fileName = some eb ∧
        ea.key ≠ eb.key ∧
        ¬ Precedes (line eb) (line ea) (lines {} MapKind.http.fileName s) := by
  intro a b s
  have hroot : ¬ OnlySlashes "/x/" := fun h => absurd (h 'x' (by decide)) (by decide)
  have hend : EndsInSlash "/x/" := endsWithSlash_iff.1 (by decide)
  have hbelow : Below a.2.path b.2.path := .directory (p := "/x/") (r := "%20") hroot hend
    (by decide)
  have ha : a ∈ s.routes.entries := by simp [s]
  have hb : b ∈ s.routes.entries := by simp [s]
  have hlt : line ⟨route "a.b" "/x/%20" false, "be_http:n:2"⟩ <
      line ⟨route "a.b" "/x/" false, "be_http:n:1"⟩ :=
    (line_lt_line hbelow _ _).2 ⟨hroot, hend, '%', ['2', '0'], by decide⟩
  refine ⟨ha, hb, hbelow, _, _, rfl, rfl, by decide, ?_⟩
  rw [lines, if_neg (by decide)]
  exact (precedes_sortLines (line_mem ha rfl) (line_mem hb rfl) (by decide) hlt).not_symm

end MapFile

end ProxyMaps
