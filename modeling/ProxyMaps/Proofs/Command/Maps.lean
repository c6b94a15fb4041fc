/-
The files of maps, from a snapshot to a tree of files and back. A run that ends
well has written every map to a file of its own (`run_writeMaps_eq_ok_iff`). So
in the end each file holds the lines of its map, and what the routes contribute
to the map is read back from them (`maps_read_back`).
-/
import ProxyMaps.Command
import ProxyMaps.Proofs.Command.Session
import ProxyMaps.Proofs.FileTree
import ProxyMaps.Proofs.MapFile.ReadBack

namespace ProxyMaps.Command

open FileTree (IsFileName Written)
open MapFile (Separable certificateEntries certificateOfLine? entries entryOfLine? fileText lines
  readLines)

theorem isFileName_of_mem_standardMaps :
    ∀ name ∈ ({} : Settings).standardMaps, IsFileName name := by
  have hnames : ∀ name ∈ ({} : Settings).standardMaps, name ≠ "" ∧ '/' ∉ name.toList := by decide
  exact fun name hname => ⟨(hnames name hname).1, (hnames name hname).2⟩

section

variable {settings : Settings} {dir : String} {s : Snapshot} {said said' : List Notice}
  {t t' : FileTree}

/-- One turn of the loop that writes the maps. -/
def writeMap (settings : Settings) (dir : String) (s : Snapshot) (name : String) :
    Session (StateM FileTree) (ForInStep PUnit) := do
  let path := Path.join dir name
  let lines := MapFile.lines settings name s
  Session.orStop (.unwritable path) (← Host.ofFileTree.write path (MapFile.fileText lines))
  Session.log .debug s!"wrote {lines.length} lines to {path}"
  return .yield ⟨⟩

theorem attempt_eq_true_iff {f : FileTree → Option FileTree} :
    Host.attempt f t = (true, t') ↔ f t = some t' := by
  unfold Host.attempt
  cases f t with
  | none => exact iff_of_false (fun h => by cases h) (fun h => by cases h)
  | some t₁ =>
    constructor
    · intro h
      cases h
      rfl
    · intro h
      cases h
      rfl

theorem write_eq_true_iff {path text : String} :
    Host.ofFileTree.write path text t = (true, t') ↔ t.write? path text.toUTF8 = some t' :=
  attempt_eq_true_iff (f := fun t => t.write? path text.toUTF8)

theorem write?_of_run_writeMap {name : String} {step : ForInStep PUnit}
    (h : (writeMap settings dir s name).run.run said t = ((.ok step, said'), t')) :
    step = .yield ⟨⟩ ∧
      t.write? (Path.join dir name) (fileText (lines settings name s)).toUTF8 = some t' := by
  obtain ⟨written, said₁, t₁, hlift, h₁⟩ := exists_of_run_bind h
  obtain ⟨hwrite, rfl⟩ := of_run_lift hlift
  obtain ⟨u, said₂, t₂, hstop, h₂⟩ := exists_of_run_bind h₁
  obtain ⟨rfl, rfl, rfl⟩ := of_run_orStop hstop
  obtain ⟨u, said₃, t₃, hlog, h₃⟩ := exists_of_run_bind h₂
  cases hlog
  cases h₃
  exact ⟨rfl, write_eq_true_iff.1 hwrite⟩

theorem run_writeMap {name : String} (said : List Notice)
    (h : t.write? (Path.join dir name) (fileText (lines settings name s)).toUTF8 = some t') :
    ∃ said', (writeMap settings dir s name).run.run said t = ((.ok (.yield ⟨⟩), said'), t') :=
  ⟨_, run_bind (run_lift (write_eq_true_iff.2 h))⟩

theorem written_of_run_forIn {names : List String}
    (h : (forIn names PUnit.unit fun name _ => writeMap settings dir s name).run.run said t =
      ((.ok ⟨⟩, said'), t')) :
    Written dir (fun name => fileText (lines settings name s)) names t t' := by
  induction names generalizing said t with
  | nil =>
    cases h
    exact .nil
  | cons name names ih =>
    rw [List.forIn_cons] at h
    obtain ⟨step, said₁, t₁, hstep, hrest⟩ := exists_of_run_bind h
    obtain ⟨rfl, hwrite⟩ := write?_of_run_writeMap hstep
    exact .cons hwrite (ih hrest)

theorem run_forIn {names : List String} (said : List Notice)
    (h : Written dir (fun name => fileText (lines settings name s)) names t t') :
    ∃ said', (forIn names PUnit.unit fun name _ => writeMap settings dir s name).run.run said t =
      ((.ok ⟨⟩, said'), t') := by
  induction h generalizing said with
  | nil => exact ⟨said, rfl⟩
  | cons hwrite hrest ih =>
    obtain ⟨said₁, hstep⟩ := run_writeMap said hwrite
    obtain ⟨said₂, hloop⟩ := ih said₁
    exact ⟨said₂, by rw [List.forIn_cons, run_bind hstep]; exact hloop⟩

/-- Maps are written by the turns of one loop, once there is a directory. -/
theorem writeMaps_eq : writeMaps Host.ofFileTree settings dir s = (do
    Session.orStop (.noDirectory dir) (← Host.ofFileTree.makeDirectories dir)
    forIn settings.standardMaps PUnit.unit fun name _ => writeMap settings dir s name
    return settings.standardMaps.length) := rfl

/-- Writing maps ends well exactly when there is a directory for them and each map gets written. -/
theorem run_writeMaps_eq_ok_iff (said : List Notice) :
    (∃ n said', (writeMaps Host.ofFileTree settings dir s).run.run said t = ((.ok n, said'), t')) ↔
      (t.makeDirectories dir).2 = true ∧
        Written dir (fun name => fileText (lines settings name s)) settings.standardMaps
          (t.makeDirectories dir).1 t' := by
  have hmake : Host.ofFileTree.makeDirectories dir t =
    ((t.makeDirectories dir).2, (t.makeDirectories dir).1) := rfl
  rw [writeMaps_eq]
  constructor
  · rintro ⟨n, said', h⟩
    rw [run_bind (run_lift hmake)] at h
    obtain ⟨u, said₁, t₁, hstop, h₁⟩ := exists_of_run_bind h
    obtain ⟨hmade, rfl, rfl⟩ := of_run_orStop hstop
    obtain ⟨u, said₂, t₂, hloop, h₂⟩ := exists_of_run_bind h₁
    cases h₂
    exact ⟨hmade, written_of_run_forIn hloop⟩
  · rintro ⟨hmade, hwritten⟩
    obtain ⟨said', hloop⟩ := run_forIn said hwritten
    refine ⟨settings.standardMaps.length, said', ?_⟩
    rw [run_bind (run_lift hmake), hmade, run_bind (run_orStop _), run_bind hloop]
    rfl

end

/-- **Map files read back.** Maps are written wherever there can be a directory for
them and their files. Where neither the working directory nor a key, a host or a
path of a route has a space or a line feed in it, each file that is written says
again what the routes contribute to its map: every entry, or everything about
every certificate, as often as it was contributed, and nothing else. -/
theorem maps_read_back {s : Snapshot} (h : Separable s) :
    (∀ (dir : String) (said : List Notice) (t : FileTree), (t.makeDirectories dir).2 = true →
      (∀ name ∈ ({} : Settings).standardMaps,
        (t.makeDirectories dir).1.CanWrite (Path.join dir name)) →
      ∃ n said' t', (writeMaps Host.ofFileTree {} dir s).run.run said t = ((.ok n, said'), t')) ∧
    ∀ name ∈ ({} : Settings).standardMaps,
      (∀ (dir : String) (said said' : List Notice) (t t' : FileTree) (n : Nat),
        (writeMaps Host.ofFileTree {} dir s).run.run said t = ((.ok n, said'), t') →
          t'.read? (Path.join dir name) = some (fileText (lines {} name s)).toUTF8) ∧
      if name = ({} : Settings).certificateMap then
        ((readLines (fileText (lines {} name s))).map certificateOfLine?).Perm
          ((certificateEntries s).map some)
      else
        ((readLines (fileText (lines {} name s))).map entryOfLine?).Perm
          ((entries name s).map some) := by
  refine ⟨fun dir said t hmade hwrite => ?_, fun name hname =>
    ⟨fun dir said said' t t' n hrun => ?_, ?_⟩⟩
  · obtain ⟨t', hwritten⟩ := FileTree.exists_written hwrite fun name => fileText (lines {} name s)
    obtain ⟨n, said', hrun⟩ := (run_writeMaps_eq_ok_iff said).2 ⟨hmade, hwritten⟩
    exact ⟨n, said', t', hrun⟩
  · obtain ⟨-, hwritten⟩ := (run_writeMaps_eq_ok_iff said).1 ⟨n, said', hrun⟩
    exact hwritten.read?_eq isFileName_of_mem_standardMaps (by decide) name hname
  · split
    next hmap => exact hmap ▸ MapFile.readCertificates_perm h
    next hmap => exact MapFile.readEntries_perm h hmap

theorem maps_read_back_two_routes :
    let s : Snapshot := {
      routes := .ofList [
        ("n:1", { host := "a.b", path := "/x", termination := .edge
                  certificates := .ofList [("a.b", ⟨"a.b", "C"⟩)] }),
        ("n:2", { host := "c.d", wildcard := true, termination := .edge })]
      workingDir := "/w" }
    Separable s ∧
    (∃ n said t, (writeMaps Host.ofFileTree {} "conf" s).run.run [] {} = ((.ok n, said), t) ∧
      t.read? "conf/os_edge_reencrypt_be.map" =
        some (fileText (lines {} "os_edge_reencrypt_be.map" s)).toUTF8) ∧
    ((readLines (fileText (lines {} "os_edge_reencrypt_be.map" s))).map entryOfLine?).Perm
      [some ⟨"^a\\.b(:[0-9]+)?/x(/.*)?$", "be_edge_http:n:1"⟩,
        some ⟨"^[^\\.]*\\.d(:[0-9]+)?(/.*)?$", "be_edge_http:n:2"⟩] ∧
    ((readLines (fileText (lines {} "cert_config.map" s))).map certificateOfLine?).Perm
      [some ⟨"/w/certs/n:1.pem", true, "a.b"⟩] := by
  intro s
  have hsolid : Separable s := ⟨by decide, by decide, by decide, by decide⟩
  obtain ⟨hends, hmaps⟩ := maps_read_back hsolid
  obtain ⟨n, said, t, hrun⟩ := hends "conf" [] {} (by decide +kernel) (by decide +kernel)
  obtain ⟨hread, hentries⟩ := hmaps "os_edge_reencrypt_be.map" (by decide)
  obtain ⟨-, hcertificates⟩ := hmaps "cert_config.map" (by decide)
  refine ⟨hsolid, ⟨n, said, t, hrun, hread _ _ _ _ _ _ hrun⟩, ?_, ?_⟩
  · exact hentries.trans (.of_eq (by decide))
  · exact hcertificates.trans (.of_eq (by decide))

end ProxyMaps.Command
