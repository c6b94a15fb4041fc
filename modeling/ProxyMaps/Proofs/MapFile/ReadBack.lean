/-
Map files read back. A file is cut at its line feeds, and a line at its first
space; of a line about a certificate the hint is taken off as well.

What is written is found again as long as the texts that routes bring along are
`Solid`: neither a space nor a line feed is in them. Patterns add neither
(`Solid.route`), so a line has its first space behind its key, and its only
line feed at its end.
-/
import ProxyMaps.Proofs.MapFile.Canonical
import ProxyMaps.Proofs.MapFile.Certificates
import ProxyMaps.Proofs.RouteFile

namespace ProxyMaps

namespace MapFile

/-! ## Reading -/

/-- The lines of a file; each of them ends with a line feed. -/
def readLines (file : String) : List String :=
  (List.splitOn '\n' file.toList).dropLast.map String.ofList

/-- The entry of a line: its key up to the first space, and its value behind it. -/
def entryOfLine? (line : String) : Option MapEntry :=
  (Text.cutFirst? ' ' line.toList).map fun p => ⟨String.ofList p.1, String.ofList p.2⟩

/-- What a line of the map of certificates says. -/
structure CertificateEntry where
  file : String
  /-- Whether HTTP/2 is offered. -/
  http2 : Bool
  host : String
  deriving DecidableEq, Repr

/-- The hint as it stands in a line, with the space behind it. -/
def writtenHint : List Char := "[alpn h2,http/1.1] ".toList

/-- What a line says about a certificate: its file up to the first space, perhaps the hint, its
host. -/
def certificateOfLine? (line : String) : Option CertificateEntry :=
  (Text.cutFirst? ' ' line.toList).map fun p =>
    match writtenHint.isPrefixOf? p.2 with
    | some host => ⟨String.ofList p.1, true, String.ofList host⟩
    | none => ⟨String.ofList p.1, false, String.ofList p.2⟩

theorem splitOn_fileText {ls : List String} (h : ∀ l ∈ ls, '\n' ∉ l.toList) :
    List.splitOn '\n' (fileText ls).toList = ls.map String.toList ++ [[]] := by
  induction ls with
  | nil => rfl
  | cons l ls ih =>
    have hline : "\n".toList = ['\n'] := rfl
    have hfile : (fileText (l :: ls)).toList = l.toList ++ '\n' :: (fileText ls).toList := by
      simp [fileText, String.toList_join, hline]
    rw [hfile, List.splitOn_append_cons_self, List.splitOn_eq_singleton (h l List.mem_cons_self),
      ih fun m hm => h m (List.mem_cons_of_mem _ hm)]
    rfl

/-- Lines that are one line each are read as they were written. -/
theorem readLines_fileText {ls : List String} (h : ∀ l ∈ ls, '\n' ∉ l.toList) :
    readLines (fileText ls) = ls := by
  rw [readLines, splitOn_fileText h, List.dropLast_concat, List.map_map]
  simp [Function.comp_def]

/-- What lines were written of is read back from a file of them, whatever their order is. -/
theorem readLines_perm {α : Type} {write : α → String} {read : String → Option α} {xs : List α}
    {ls : List String} (hperm : ls.Perm (xs.map write))
    (hline : ∀ x ∈ xs, '\n' ∉ (write x).toList) (hread : ∀ x ∈ xs, read (write x) = some x) :
    ((readLines (fileText ls)).map read).Perm (xs.map some) := by
  have hlines : ∀ l ∈ ls, '\n' ∉ l.toList := by
    intro l hl
    obtain ⟨x, hx, rfl⟩ := List.mem_map.1 (hperm.mem_iff.1 hl)
    exact hline x hx
  rw [readLines_fileText hlines]
  refine (hperm.map read).trans (.of_eq ?_)
  rw [List.map_map]
  exact List.map_congr_left hread

theorem entryOfLine?_line {e : MapEntry} (h : ' ' ∉ e.key.toList) : entryOfLine? (line e) = some e := by
  have hspace : " ".toList = [' '] := rfl
  have hcut : Text.cutFirst? ' ' (line e).toList = some (e.key.toList, e.value.toList) :=
    Text.cutFirst?_eq_some_iff.2 ⟨by simp [line, hspace], h⟩
  simp [entryOfLine?, hcut]

/-! ## Texts without separators -/

/-- A text that has neither a space nor a line feed. -/
def Solid (s : String) : Prop := ' ' ∉ s.toList ∧ '\n' ∉ s.toList

instance : DecidablePred Solid := fun s =>
  inferInstanceAs (Decidable (' ' ∉ s.toList ∧ '\n' ∉ s.toList))

theorem solid_append {s t : String} : Solid (s ++ t) ↔ Solid s ∧ Solid t := by
  simp only [Solid, String.toList_append, List.mem_append, not_or]
  exact and_and_and_comm

theorem Solid.append {s t : String} (hs : Solid s) (ht : Solid t) : Solid (s ++ t) :=
  solid_append.2 ⟨hs, ht⟩

theorem Solid.of_subset {s t : String} (hs : Solid s) (h : t.toList ⊆ s.toList) : Solid t :=
  ⟨fun hm => hs.1 (h hm), fun hm => hs.2 (h hm)⟩

section Patterns

open HostPattern

variable {host path : String}

theorem mem_quoteMeta {c : Char} {s : String} (h : c ∈ (quoteMeta s).toList) :
    c = '\\' ∨ c ∈ s.toList := by
  rw [toList_quoteMeta, List.mem_flatMap] at h
  obtain ⟨d, hd, hc⟩ := h
  unfold quoteChar at hc
  split at hc
  · rcases List.mem_cons.1 hc with rfl | hc
    · exact .inl rfl
    · exact .inr (List.mem_singleton.1 hc ▸ hd)
  · exact .inr (List.mem_singleton.1 hc ▸ hd)

theorem Solid.quoteMeta {s : String} (h : Solid s) : Solid (HostPattern.quoteMeta s) :=
  ⟨fun hm => (mem_quoteMeta hm).elim (by decide) h.1,
    fun hm => (mem_quoteMeta hm).elim (by decide) h.2⟩

theorem Solid.of_cutFirst? {sep : Char} {label domain : List Char} (h : Solid host)
    (hcut : Text.cutFirst? sep host.toList = some (label, domain)) :
    Solid (String.ofList domain) := by
  refine h.of_subset fun c hc => ?_
  rw [(Text.cutFirst?_eq_some_iff.1 hcut).1]
  simp only [String.toList_ofList] at hc
  simp [hc]

theorem Solid.parentDomain (h : Solid host) : Solid (HostPattern.parentDomain host) := by
  unfold HostPattern.parentDomain
  split
  next hcut => exact h.of_cutFirst? hcut
  · decide

theorem Solid.certificateHost (h : Solid host) (wildcard : Bool) :
    Solid (HostPattern.certificateHost host wildcard) := by
  unfold HostPattern.certificateHost
  split
  · split
    next hcut => exact Solid.append (by decide) (h.of_cutFirst? hcut)
    · exact h
  · exact h

theorem Solid.hostPart (h : Solid host) (wildcard : Bool) :
    Solid (HostPattern.hostPart host wildcard) := by
  unfold HostPattern.hostPart
  dsimp only
  split
  · exact Solid.append (by decide) (Solid.append (by decide) h.parentDomain).quoteMeta
  · exact h.quoteMeta

theorem Solid.pathPart (h : Solid path) : Solid (HostPattern.pathPart path) := by
  unfold HostPattern.pathPart
  split
  · decide
  · split
    · exact h.quoteMeta.append (by decide)
    · exact h.quoteMeta.append (by decide)

theorem Solid.route (hhost : Solid host) (hpath : Solid path) (wildcard : Bool) :
    Solid (HostPattern.route host path wildcard) :=
  ((((show Solid "^" by decide).append (hhost.hostPart wildcard)).append (by decide)).append
    hpath.pathPart).append (by decide)

end Patterns

/-- What routes bring into the files of maps is solid. -/
structure Separable (s : Snapshot) : Prop where
  workingDir : Solid s.workingDir
  key : ∀ e ∈ s.routes.entries, Solid e.1
  host : ∀ e ∈ s.routes.entries, Solid e.2.host
  path : ∀ e ∈ s.routes.entries, Solid e.2.path

/-! ## Maps of patterns -/

section Patterns

variable {fileName : String} {s : Snapshot} {e : MapEntry}

theorem exists_of_mem_entries (h : e ∈ entries fileName s) : ∃ r ∈ s.routes.entries,
    (Backend.ofRoute r.1 r.2 false).entryNamed? fileName = some e :=
  List.mem_filterMap.1 h

theorem Separable.solid_key (h : Separable s) (he : e ∈ entries fileName s) : Solid e.key := by
  obtain ⟨r, hr, he⟩ := exists_of_mem_entries he
  obtain ⟨path, hpath, hkey⟩ := key_eq_route he
  have hsolid : Solid path := by
    rcases hpath with rfl | rfl
    · exact h.path r hr
    · decide
  exact hkey ▸ Solid.route (h.host r hr) hsolid _

theorem Separable.solid_value (h : Separable s) (he : e ∈ entries fileName s) : Solid e.value := by
  obtain ⟨r, hr, he⟩ := exists_of_mem_entries he
  obtain ⟨k, -, hin, rfl⟩ := entryNamed?_eq_some he
  have hfull : ∀ t : Termination, Solid (HostPattern.backendKind t ++ ":" ++ r.1) := fun t =>
    Solid.append (by cases t <;> decide) (h.key r hr)
  cases k with
  | wildcardDomain | sniPassthrough => exact (show Solid "1" by decide)
  | http | edgeReencrypt => exact hfull _
  | httpRedirect | tcp => exact h.key r hr
  | certificates => simp [Backend.belongsTo, Backend.ofRoute] at hin

theorem Separable.solid_line (h : Separable s) (he : e ∈ entries fileName s) :
    '\n' ∉ (line e).toList := by
  have hspace : '\n' ∉ " ".toList := by decide
  simp only [line, String.toList_append, List.mem_append, not_or]
  exact ⟨⟨(h.solid_key he).2, hspace⟩, (h.solid_value he).2⟩

/-- The entries of a map are read back from its lines. -/
theorem readEntries_perm (h : Separable s) (hmap : fileName ≠ ({} : Settings).certificateMap) :
    ((readLines (fileText (lines {} fileName s))).map entryOfLine?).Perm
      ((entries fileName s).map some) := by
  have hperm : (lines {} fileName s).Perm ((entries fileName s).map line) := by
    rw [lines, if_neg hmap]
    exact sortLines_perm _ _
  exact readLines_perm hperm (fun e he => h.solid_line he)
    fun e he => entryOfLine?_line (h.solid_key he).1

end Patterns

/-! ## The map of certificates -/

section Certificates

/-- What the map of certificates says about the routes that present one. -/
def certificateEntries (s : Snapshot) : List CertificateEntry :=
  (s.routes.entries.filter fun e => Presents e.2).map fun e =>
    ⟨RouteFile.certificatePath {} s.workingDir e.1, offersHttp2 s e.2,
      HostPattern.certificateHost e.2.host e.2.wildcard⟩

/-- A line of the map of certificates. -/
def certificateLine (e : CertificateEntry) : String :=
  String.intercalate " " ([e.file] ++ (if e.http2 then ["[alpn h2,http/1.1]"] else []) ++ [e.host])

theorem filterMap_certificateLine?_eq (s : Snapshot) :
    s.routes.entries.filterMap (fun e => certificateLine? {} s e.1 e.2) =
      (certificateEntries s).map certificateLine := by
  rw [certificateEntries, List.map_map, ← List.filterMap_eq_map', ← List.filterMap_eq_filter,
    List.filterMap_filterMap]
  refine List.filterMap_congr fun e _ => ?_
  rw [certificateLine?_eq_ite]
  by_cases hp : Presents e.2
  · simp only [hp, if_true, Option.guard, decide_true, Option.bind_some]
    rfl
  · simp [Option.guard, hp]

theorem toList_certificateLine (e : CertificateEntry) :
    (certificateLine e).toList = e.file.toList ++ ' ' ::
      ((if e.http2 then writtenHint else []) ++ e.host.toList) := by
  have hspace : " ".toList = [' '] := rfl
  have hhint : writtenHint = "[alpn h2,http/1.1]".toList ++ [' '] := rfl
  rw [certificateLine, String.toList_intercalate, hspace, hhint]
  cases e.http2 with
  | true =>
    simp only [if_true, List.map_cons, List.map_nil, List.cons_append, List.nil_append,
      List.intercalate_cons_cons, List.intercalate_singleton, List.append_assoc]
  | false =>
    simp only [Bool.false_eq_true, if_false, List.map_cons, List.map_nil, List.cons_append,
      List.nil_append, List.intercalate_cons_cons, List.intercalate_singleton, List.append_assoc]

theorem certificateOfLine?_certificateLine {e : CertificateEntry} (hfile : Solid e.file)
    (hhost : Solid e.host) : certificateOfLine? (certificateLine e) = some e := by
  have hcut := Text.cutFirst?_eq_some_iff.2 ⟨toList_certificateLine e, hfile.1⟩
  rw [certificateOfLine?, hcut, Option.map_some, Option.some.injEq]
  obtain ⟨file, http2, host⟩ := e
  cases http2 with
  | true =>
    have hdrop : writtenHint.isPrefixOf? (writtenHint ++ host.toList) = some host.toList :=
      List.isPrefixOf?_eq_some_iff_append_eq.2 rfl
    simp [hdrop]
  | false =>
    -- the hint has a space in it, and so is at the start of no host
    have hnone : writtenHint.isPrefixOf? host.toList = none := by
      rw [Option.eq_none_iff_forall_ne_some]
      intro rest hrest
      have hspace : ' ' ∈ writtenHint := by decide
      have htext := List.isPrefixOf?_eq_some_iff_append_eq.1 hrest
      exact hhost.1 (htext ▸ List.mem_append_left _ hspace)
    simp [hnone]

variable {s : Snapshot} {e : CertificateEntry}

theorem Solid.join {dir file : String} (hdir : Solid dir) (hfile : Solid file) :
    Solid (Path.join dir file) := by
  unfold Path.join
  split
  · exact hfile
  · split
    · exact hdir.append hfile
    · exact (hdir.append (by decide)).append hfile

theorem Separable.solid_certificate (h : Separable s) (he : e ∈ certificateEntries s) :
    Solid e.file ∧ Solid e.host := by
  obtain ⟨r, hr, rfl⟩ := List.mem_map.1 he
  have hmem := List.mem_of_mem_filter hr
  exact ⟨(h.workingDir.join (by decide)).join ((h.key r hmem).append (by decide)),
    (h.host r hmem).certificateHost _⟩

theorem certificateLine_one_line (hfile : Solid e.file) (hhost : Solid e.host) :
    '\n' ∉ (certificateLine e).toList := by
  have hspace : '\n' ≠ ' ' := by decide
  have hhint : '\n' ∉ (if e.http2 then writtenHint else []) := by
    cases e.http2 <;> decide
  simp only [toList_certificateLine, List.mem_append, List.mem_cons, not_or]
  exact ⟨hfile.2, hspace, hhint, hhost.2⟩

/-- What the map of certificates says is read back from its lines. -/
theorem readCertificates_perm (h : Separable s) :
    ((readLines (fileText (lines {} ({} : Settings).certificateMap s))).map certificateOfLine?).Perm
      ((certificateEntries s).map some) := by
  have hperm : (lines {} ({} : Settings).certificateMap s).Perm
      ((certificateEntries s).map certificateLine) := by
    rw [lines, if_pos rfl, certificateLines, filterMap_certificateLine?_eq]
    exact descending_perm _
  refine readLines_perm hperm (fun e he => ?_) fun e he => ?_
  · obtain ⟨hfile, hhost⟩ := h.solid_certificate he
    exact certificateLine_one_line hfile hhost
  · obtain ⟨hfile, hhost⟩ := h.solid_certificate he
    exact certificateOfLine?_certificateLine hfile hhost

end Certificates

end MapFile

end ProxyMaps
