/-
Where the files of routes are, and which routes share one.

Each file is named for the key of its route, and the key is joined to the
directory as it is. So a file stays in its directory exactly if the key stays
where it is (`StaysPut`): it does not start at the root, and all of it up to
its last slash leads back to where it starts. The directory of certificates is
what rules the other keys out: a key that leads out of one directory and into
it again names that directory, and so leads out of the other one.
-/
import ProxyMaps.Allowlist
import ProxyMaps.MapFile
import ProxyMaps.Proofs.Path.Normal

namespace ProxyMaps.RouteFile

open ProxyMaps.Path

/-- The path of the certificate of a route. -/
def certificatePath (settings : Settings) (workingDir key : String) : String :=
  join (join workingDir settings.certificateDir) (key ++ ".pem")

/-- Both files of a route are right inside of the directories for them. -/
def Placed (workingDir key : String) : Prop :=
  DirectlyInside (AllowlistFile.path {} workingDir key) (workingDir ++ "/allowlists") ∧
    DirectlyInside (certificatePath {} workingDir key) (workingDir ++ "/certs")

/-- A key is not a path from the root, and leads back from its folders to where it starts. -/
def StaysPut (key : String) : Prop := isAbsolute key = false ∧ normal (folder key) = normal ""

instance : DecidablePred StaysPut := fun key =>
  inferInstanceAs (Decidable (isAbsolute key = false ∧ normal (folder key) = normal ""))

/-- A key is the full path, from the root, of what another key is in a directory. -/
def Spells (dir key key' : String) : Prop :=
  isAbsolute key = true ∧ isAbsolute key' = false ∧ key = dir ++ "/" ++ key'

/-! ## One directory -/

/-- A text that a directory has for a name. -/
structure IsName (name : String) : Prop where
  ne_nil : name.toList ≠ []
  ne_dot : name.toList ≠ ['.']
  ne_back : name.toList ≠ back
  no_slash : '/' ∉ name.toList

/-- A text that makes a name of whatever stands in front of it. -/
structure IsEnding (ending : String) : Prop where
  long : 2 < ending.toList.length
  no_slash : '/' ∉ ending.toList

theorem isName_allowlists : IsName "allowlists" := ⟨by decide, by decide, by decide, by decide⟩

theorem isName_certs : IsName "certs" := ⟨by decide, by decide, by decide, by decide⟩

theorem isEnding_txt : IsEnding ".txt" := ⟨by decide, by decide⟩

theorem isEnding_pem : IsEnding ".pem" := ⟨by decide, by decide⟩

theorem isAbsolute_of_no_slash {s : String} (h : '/' ∉ s.toList) : isAbsolute s = false := by
  unfold isAbsolute
  cases hs : s.toList with
  | nil => simp
  | cons c cs =>
    rw [hs] at h
    simp only [List.mem_cons, not_or] at h
    simp [Ne.symm h.1]

theorem IsEnding.isAbsolute_append {ending : String} (h : IsEnding ending) (key : String) :
    isAbsolute (key ++ ending) = isAbsolute key := by
  by_cases hkey : key = ""
  · subst hkey
    rw [String.empty_append, isAbsolute_of_no_slash h.no_slash]
    rfl
  · exact Path.isAbsolute_append hkey ending

theorem IsEnding.walk {ending : String} (h : IsEnding ending) {a : Bool}
    (stack : List (List Char)) (name : List Char) :
    walk a stack (name ++ ending.toList) = (name ++ ending.toList) :: stack := by
  have hlen : 2 < (name ++ ending.toList).length := by
    have := h.long
    rw [List.length_append]
    omega
  refine walk_name ?_ ?_ ?_ <;> intro heq <;> rw [heq] at hlen <;> exact absurd hlen (by decide)

section Directory

variable {workingDir dir ending key key' : String}

theorem IsName.walk (h : IsName dir) {a : Bool} (stack : List (List Char)) :
    (List.splitOn '/' dir.toList).foldl (Path.walk a) stack = dir.toList :: stack := by
  rw [List.splitOn_eq_singleton h.no_slash, List.foldl_cons, List.foldl_nil,
    walk_name h.ne_nil h.ne_dot h.ne_back]

theorem normal_directory (hw : workingDir ≠ "") (hd : IsName dir) :
    normal (workingDir ++ "/" ++ dir) =
      ⟨isAbsolute workingDir, dir.toList :: (normal workingDir).parts⟩ := by
  rw [normal_append hw, hd.walk]

theorem normal_join_directory (hw : workingDir ≠ "") (hd : IsName dir) :
    normal (join workingDir dir) =
      ⟨isAbsolute workingDir, dir.toList :: (normal workingDir).parts⟩ := by
  rw [normal_join hw (isAbsolute_of_no_slash hd.no_slash), hd.walk]

/-- Where the folders of a key lead from a directory. -/
def reached (workingDir dir key : String) : List (List Char) :=
  (List.splitOn '/' (folder key).toList).foldl (Path.walk (isAbsolute workingDir))
    (dir.toList :: (normal workingDir).parts)

theorem join_ne_empty {s t : String} (hs : s ≠ "") : join s t ≠ "" := by
  unfold join
  split
  · rename_i ht
    rintro rfl
    simp [isAbsolute] at ht
  · split <;> simp [hs]

theorem normal_file (hw : workingDir ≠ "") (hd : IsName dir) (he : IsEnding ending)
    (hkey : isAbsolute key = false) :
    normal (join (join workingDir dir) (key ++ ending)) =
      ⟨isAbsolute workingDir,
        (lastName key ++ ending.toList) :: reached workingDir dir key⟩ := by
  have hdir := normal_join_directory hw hd
  have hroot : isAbsolute (join workingDir dir) = isAbsolute workingDir :=
    congrArg Normal.absolute hdir
  rw [normal_join (join_ne_empty hw) (by rw [he.isAbsolute_append, hkey]), hroot, hdir,
    foldl_walk_file he.no_slash, he.walk]
  rfl

theorem directlyInside_of_relative (hw : workingDir ≠ "") (hd : IsName dir) (he : IsEnding ending)
    (hkey : isAbsolute key = false) :
    DirectlyInside (join (join workingDir dir) (key ++ ending)) (workingDir ++ "/" ++ dir) ↔
      reached workingDir dir key = dir.toList :: (normal workingDir).parts := by
  rw [DirectlyInside, normal_file hw hd he hkey, normal_directory hw hd]
  constructor
  · intro h
    obtain ⟨name, -, h⟩ := h
    simp only [Normal.mk.injEq, List.cons.injEq] at h
    exact h.2.2
  · intro h
    refine ⟨_, ?_, by rw [h]⟩
    intro hback
    have := congrArg List.length hback
    have hlong := he.long
    rw [List.length_append] at this
    simp only [back, List.length_cons, List.length_nil] at this
    omega

/-- From the root a file is where its key says, whatever the directory. -/
theorem parts_of_directlyInside_of_absolute (hw : workingDir ≠ "") (hd : IsName dir)
    (he : IsEnding ending) (hkey : isAbsolute key = true)
    (h : DirectlyInside (join (join workingDir dir) (key ++ ending)) (workingDir ++ "/" ++ dir)) :
    (List.splitOn '/' (folder key).toList).foldl (Path.walk true) [] =
      dir.toList :: (normal workingDir).parts := by
  have hfile : isAbsolute (key ++ ending) = true := by rw [he.isAbsolute_append, hkey]
  have hjoin : join (join workingDir dir) (key ++ ending) = key ++ ending := if_pos hfile
  obtain ⟨name, -, h⟩ := h
  rw [hjoin, normal_directory hw hd, normal, hfile, foldl_walk_file he.no_slash, he.walk] at h
  simp only [Normal.mk.injEq, List.cons.injEq] at h
  exact h.2.2

/-! ## Both directories -/

theorem staysPut_iff (hkey : isAbsolute key = false) :
    StaysPut key ↔ (List.splitOn '/' (folder key).toList).foldl (Path.walk false) [] = [] := by
  have hempty : normal "" = ⟨false, []⟩ := by decide
  rw [StaysPut, hempty, normal, isAbsolute_folder hkey]
  simp [hkey]

theorem reached_eq_of_staysPut (h : StaysPut key) :
    reached workingDir dir key = dir.toList :: (normal workingDir).parts := by
  have hway := (staysPut_iff h.1).1 h
  have hbelow : back ∉ (List.splitOn '/' (folder key).toList).foldl (Path.walk false) [] := by
    rw [hway]
    exact List.not_mem_nil
  have happend : reached workingDir dir key = _ ++ _ := foldl_walk_append hbelow
  rw [happend, hway, List.nil_append]

theorem staysPut_of_reached (hkey : isAbsolute key = false)
    (hlists : reached workingDir "allowlists" key = "allowlists".toList :: (normal workingDir).parts)
    (hcerts : reached workingDir "certs" key = "certs".toList :: (normal workingDir).parts) :
    StaysPut key := by
  rw [staysPut_iff hkey]
  by_cases hback : back ∈ (List.splitOn '/' (folder key).toList).foldl (Path.walk false) []
  · -- the name of the directory is lost on the way, so it cannot be two different ones
    have hstart : back ∉ ([] : List (List Char)) := List.not_mem_nil
    have hsame : reached workingDir "allowlists" key = reached workingDir "certs" key :=
      foldl_walk_cons (by decide) (by decide) hstart hback
    rw [hlists, hcerts] at hsame
    exact absurd hsame (by simp)
  · have happend : reached workingDir "certs" key = _ ++ _ := foldl_walk_append hback
    rw [hcerts] at happend
    simpa using happend

theorem placed_eq : Placed workingDir key =
    (DirectlyInside (join (join workingDir "allowlists") (key ++ ".txt"))
        (workingDir ++ "/" ++ "allowlists") ∧
      DirectlyInside (join (join workingDir "certs") (key ++ ".pem"))
        (workingDir ++ "/" ++ "certs")) := by
  rw [String.append_assoc, String.append_assoc]
  rfl

theorem placed_iff (hw : workingDir ≠ "") : Placed workingDir key ↔ StaysPut key := by
  rw [placed_eq]
  cases hkey : isAbsolute key with
  | true =>
    refine iff_of_false (fun h => ?_) fun h => by simp [h.1] at hkey
    -- a path from the root is in one directory only
    have hlists := parts_of_directlyInside_of_absolute hw isName_allowlists isEnding_txt hkey h.1
    have hcerts := parts_of_directlyInside_of_absolute hw isName_certs isEnding_pem hkey h.2
    rw [hlists] at hcerts
    exact absurd hcerts (by simp)
  | false =>
    have hlists := directlyInside_of_relative hw isName_allowlists isEnding_txt hkey
    have hcerts := directlyInside_of_relative hw isName_certs isEnding_pem hkey
    constructor
    · exact fun h => staysPut_of_reached hkey (hlists.1 h.1) (hcerts.1 h.2)
    · exact fun h => ⟨hlists.2 (reached_eq_of_staysPut h), hcerts.2 (reached_eq_of_staysPut h)⟩

/-! ## Routes that share a file -/

theorem endsWithSlash_join_directory (hd : IsName dir) :
    endsWithSlash (join workingDir dir) = false := by
  have hjoin : ∃ front, (join workingDir dir).toList = front ++ dir.toList := by
    unfold join
    rw [isAbsolute_of_no_slash hd.no_slash, if_neg (by decide)]
    split
    · exact ⟨_, String.toList_append⟩
    · exact ⟨_, String.toList_append⟩
  obtain ⟨front, hfront⟩ := hjoin
  have hlast : (join workingDir dir).toList.getLast? = dir.toList.getLast? := by
    rw [hfront, List.getLast?_append, List.getLast?_eq_some_getLast hd.ne_nil, Option.some_or]
  unfold endsWithSlash
  rw [hlast, decide_eq_false_iff_not]
  exact fun h => hd.no_slash (List.mem_of_getLast? h)

theorem join_file (hw : workingDir ≠ "") (hd : IsName dir) (he : IsEnding ending) :
    join (join workingDir dir) (key ++ ending) =
      (if isAbsolute key then key else join workingDir dir ++ "/" ++ key) ++ ending := by
  have hslash : endsWithSlash (join workingDir dir) = false := endsWithSlash_join_directory hd
  have hempty : (join workingDir dir).isEmpty = false :=
    String.isEmpty_eq_false_iff.2 (join_ne_empty hw)
  rw [join, he.isAbsolute_append, hslash, hempty]
  cases isAbsolute key with
  | true => rfl
  | false => simp [String.append_assoc]

/-- Two keys have one path only if one of them spells what the other is in the directory. -/
theorem file_eq_iff (key key' : String) (hw : workingDir ≠ "") (hd : IsName dir)
    (he : IsEnding ending) :
    join (join workingDir dir) (key ++ ending) = join (join workingDir dir) (key' ++ ending) ↔
      key = key' ∨ Spells (join workingDir dir) key key' ∨ Spells (join workingDir dir) key' key := by
  rw [join_file hw hd he, join_file hw hd he, String.append_left_inj]
  unfold Spells
  cases h : isAbsolute key with
  | true =>
    cases h' : isAbsolute key' with
    | true => simp
    | false =>
      have hne : key ≠ key' := by
        rintro rfl
        rw [h] at h'
        cases h'
      simp [hne]
  | false =>
    cases h' : isAbsolute key' with
    | true =>
      have hne : key ≠ key' := by
        rintro rfl
        rw [h] at h'
        cases h'
      simp [hne, eq_comm]
    | false => simp

/-- Keys that stay put have one file exactly if they have one name behind their folders. -/
theorem normal_file_eq_iff (hw : workingDir ≠ "") (hd : IsName dir) (he : IsEnding ending)
    (h : StaysPut key) (h' : StaysPut key') :
    normal (join (join workingDir dir) (key ++ ending)) =
      normal (join (join workingDir dir) (key' ++ ending)) ↔ lastName key = lastName key' := by
  rw [normal_file hw hd he h.1, normal_file hw hd he h'.1, reached_eq_of_staysPut h,
    reached_eq_of_staysPut h']
  simp

end Directory

/-- A line of the map of certificates begins with the path of the certificate. -/
theorem certificateLine?_eq_append {s : Snapshot} {key : String} {r : Route} {l : String}
    (h : MapFile.certificateLine? {} s key r = some l) :
    ∃ rest, l = certificatePath {} s.workingDir key ++ " " ++ rest := by
  obtain ⟨e, he, rfl⟩ := Option.map_eq_some_iff.1 h
  have hkind : MapKind.ofFileName? ({} : Settings).certificateMap = some .certificates :=
    MapKind.ofFileName?_fileName .certificates
  have hkey : e.key = key ++ ".pem" := by
    rw [Backend.entryNamed?, hkind, Option.bind_some, Backend.entryOf?,
      Option.ite_none_right_eq_some] at he
    obtain ⟨-, he⟩ := he
    rw [← Option.some.inj he]
    rfl
  rw [hkey]
  split
  · refine ⟨MapFile.http2Hint ++ " " ++ e.value, ?_⟩
    rw [← String.append_assoc, ← String.append_assoc]
    rfl
  · exact ⟨e.value, rfl⟩

/-- **Files of routes.** With the default settings the files of two keys are right
inside of their directories and apart from each other exactly if both keys
stay put. Paths are the same only for a key that spells what another one is in
the directory; of keys that stay put, those with one last name have one file. -/
theorem placed_apart_iff {workingDir : String} (hw : workingDir ≠ "") (key key' : String) :
    (Placed workingDir key ∧ Placed workingDir key' ∧
      (key ≠ key' →
        AllowlistFile.path {} workingDir key ≠ AllowlistFile.path {} workingDir key' ∧
        certificatePath {} workingDir key ≠ certificatePath {} workingDir key') ↔
      StaysPut key ∧ StaysPut key') ∧
    (AllowlistFile.path {} workingDir key = AllowlistFile.path {} workingDir key' ↔
      key = key' ∨ Spells (join workingDir "allowlists") key key' ∨
        Spells (join workingDir "allowlists") key' key) ∧
    (certificatePath {} workingDir key = certificatePath {} workingDir key' ↔
      key = key' ∨ Spells (join workingDir "certs") key key' ∨
        Spells (join workingDir "certs") key' key) ∧
    (StaysPut key → StaysPut key' →
      (normal (AllowlistFile.path {} workingDir key) =
        normal (AllowlistFile.path {} workingDir key') ↔ lastName key = lastName key') ∧
      (normal (certificatePath {} workingDir key) =
        normal (certificatePath {} workingDir key') ↔ lastName key = lastName key')) ∧
    ∀ (s : Snapshot) (r : Route) (l : String), s.workingDir = workingDir →
      MapFile.certificateLine? {} s key r = some l →
        ∃ rest, l = certificatePath {} workingDir key ++ " " ++ rest := by
  have hlists := file_eq_iff key key' hw isName_allowlists isEnding_txt
  have hcerts := file_eq_iff key key' hw isName_certs isEnding_pem
  refine ⟨?_, hlists, hcerts, ?_, ?_⟩
  · rw [placed_iff hw, placed_iff hw]
    constructor
    · exact fun h => ⟨h.1, h.2.1⟩
    · intro h
      -- neither key starts at the root, so neither spells anything
      have hspells : ∀ dir, ¬ (Spells dir key key' ∨ Spells dir key' key) := by
        rintro dir (hs | hs)
        · exact absurd (h.1.1.symm.trans hs.1) Bool.false_ne_true
        · exact absurd (h.2.1.symm.trans hs.1) Bool.false_ne_true
      refine ⟨h.1, h.2, fun hne => ⟨fun heq => ?_, fun heq => ?_⟩⟩
      · exact (hlists.1 heq).elim hne (hspells _)
      · exact (hcerts.1 heq).elim hne (hspells _)
  · exact fun h h' => ⟨normal_file_eq_iff hw isName_allowlists isEnding_txt h h',
      normal_file_eq_iff hw isName_certs isEnding_pem h h'⟩
  · intro s r l hs hl
    rw [← hs]
    exact certificateLine?_eq_append hl

theorem placed_apart_detour :
    "/w" ≠ "" ∧ Placed "/w" "n:a" ∧ Placed "/w" "x/../n:b" ∧
      AllowlistFile.path {} "/w" "n:a" ≠ AllowlistFile.path {} "/w" "x/../n:b" := by
  have hw : "/w" ≠ "" := by decide
  obtain ⟨ha, hb, hne⟩ := (placed_apart_iff hw "n:a" "x/../n:b").1.2 ⟨by decide, by decide⟩
  exact ⟨hw, ha, hb, (hne (by decide)).1⟩

theorem not_placed_of_root :
    let r : Route := { host := "a.b", termination := .edge,
                       certificates := .ofList [("a.b", ⟨"a.b", "C"⟩)] }
    let routes : Routes := .ofList [("/x", r)]
    let s : Snapshot := { routes, workingDir := "/w", certificateIndex := .ofRoutes routes }
    MapFile.certificateLines {} s = ["/x.pem [alpn h2,http/1.1] a.b"] ∧
      ¬ DirectlyInside "/x.pem" "/w/certs" ∧ ¬ Placed "/w" "/x" ∧ ¬ Placed "/w" "../x" ∧
      certificatePath {} "/w" "/w/certs/y" = certificatePath {} "/w" "y" := by
  intro r routes s
  have hw : "/w" ≠ "" := by decide
  refine ⟨?_, ?_, fun h => ?_, fun h => ?_, by decide⟩
  · have hlines : s.routes.entries.filterMap (fun e => MapFile.certificateLine? {} s e.1 e.2) =
        ["/x.pem [alpn h2,http/1.1] a.b"] := by decide
    rw [MapFile.certificateLines, hlines]
    exact List.mergeSort_singleton _
  · rintro ⟨name, -, h⟩
    have hfile : normal "/x.pem" = ⟨true, ["x.pem".toList]⟩ := by decide
    have hdir : normal "/w/certs" = ⟨true, ["certs".toList, "w".toList]⟩ := by decide
    rw [hfile, hdir] at h
    simp at h
  · exact absurd ((placed_iff hw).1 h) (by decide)
  · exact absurd ((placed_iff hw).1 h) (by decide)

end ProxyMaps.RouteFile
