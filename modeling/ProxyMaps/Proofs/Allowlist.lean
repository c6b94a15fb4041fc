/-
Allowlists as they are written to files and as they are reviewed. The file of a
route lists the valid entries of its allowlist, one a line (`listed_fileText`).
A review takes the same entries for those in effect (`words_parseAddressList`),
but none of a list with white space at an end, which is rejected as a whole
there and nowhere else.
-/
import ProxyMaps.Allowlist
import ProxyMaps.Annotation
import ProxyMaps.Proofs.FileTree
import ProxyMaps.Proofs.Text.Words

namespace ProxyMaps.Allowlist

open AnnotationValue (hasOuterBlank parseAddressList)

/-! ## Entries between blanks -/

theorem isWord_of_mem_entries {value : String} {w : List Char}
    (h : w ∈ (entries value).map String.toList) : Text.IsWord w := by
  obtain ⟨e, he, rfl⟩ := List.mem_map.1 h
  obtain ⟨he, -⟩ := List.mem_filter.1 he
  obtain ⟨w, hw, rfl⟩ := List.mem_map.1 he
  rw [String.toList_ofList]
  exact Text.isWord_of_mem hw

/-- Entries with single blanks between them are read back. -/
theorem words_intercalate_entries (value : String) :
    words (String.intercalate " " (entries value)) = entries value := by
  have hblank : " ".toList = [' '] := rfl
  rw [words, String.toList_intercalate, hblank,
    Text.words_intercalate rfl fun w => isWord_of_mem_entries]
  simp

/-- The entries that take effect by a review: a list with white space at an end has none. -/
theorem words_parseAddressList (value : String) :
    words (parseAddressList value) = if hasOuterBlank value then [] else entries value := by
  unfold parseAddressList
  split
  · rfl
  · exact words_intercalate_entries value

theorem entries_intercalate_entries (value : String) :
    entries (String.intercalate " " (entries value)) = entries value := by
  rw [entries, words_intercalate_entries, entries, List.filter_filter]
  simp only [Bool.and_self]

theorem hasOuterBlank_intercalate_entries (value : String) :
    hasOuterBlank (String.intercalate " " (entries value)) = false := by
  have hblank : " ".toList = [' '] := rfl
  rw [hasOuterBlank, String.toList_intercalate, hblank,
    Text.trim_intercalate rfl fun w => isWord_of_mem_entries]
  simp

/-- What takes effect of a list takes effect as it is. -/
theorem parseAddressList_idem (value : String) :
    parseAddressList (parseAddressList value) = parseAddressList value := by
  by_cases h : hasOuterBlank value = true
  · have hnone : parseAddressList value = "" := if_pos h
    rw [hnone]
    rfl
  · have hkept : parseAddressList value = String.intercalate " " (entries value) := if_neg h
    rw [hkept, parseAddressList, hasOuterBlank_intercalate_entries, if_neg Bool.false_ne_true,
      entries_intercalate_entries]

/-! ## Entries in a file -/

/-- The entries of an allowlist file: its lines that are not empty. -/
def listed (file : String) : List String :=
  ((List.splitOn '\n' file.toList).filter fun line => !line.isEmpty).map String.ofList

theorem listed_fileText (value : String) : listed (fileText value) = entries value := by
  have hline : "\n".toList = ['\n'] := rfl
  have hfile : (fileText value).toList =
      ['\n'].intercalate ((entries value).map String.toList) ++ ['\n'] := by
    rw [fileText, String.toList_append, String.toList_intercalate, hline]
  rw [listed, hfile, List.splitOn_append_cons_self, List.filter_append]
  by_cases hnone : entries value = []
  · rw [hnone]
    rfl
  have hkeep : ((entries value).map String.toList).filter (fun line => !line.isEmpty) =
      (entries value).map String.toList :=
    List.filter_eq_self.2 fun w hw => by simpa using (isWord_of_mem_entries hw).ne_nil
  have hsolid : ∀ w ∈ (entries value).map String.toList, '\n' ∉ w := fun w hw hmem =>
    absurd ((isWord_of_mem_entries hw).solid _ hmem) (by decide)
  rw [List.splitOn_intercalate '\n' hsolid (by simpa using hnone), hkeep]
  simp

/-- Writing an allowlist file to a tree of files, step by step. -/
theorem write_ofFileTree (settings : Settings) (workingDir key value : String) (t : FileTree) :
    AllowlistFile.write Host.ofFileTree settings workingDir key value t =
      let file := AllowlistFile.path settings workingDir key
      if file.toList.contains '\x00' then (.error .nulInPath, t)
      else
        match t.write? file (fileText value).toUTF8 with
        | none => (.ok "", t)
        | some t₁ =>
          match t₁.setMode? file Host.sharedMode with
          | none => (.ok "", t₁)
          | some t₂ => (.ok file, t₂) := by
  unfold AllowlistFile.write
  dsimp only
  generalize AllowlistFile.path settings workingDir key = file
  by_cases hnul : file.toList.contains '\x00' = true
  · rw [if_pos hnul, if_pos hnul]
    rfl
  rw [if_neg hnul, if_neg hnul]
  simp only [Host.ofFileTree, Host.attempt, bind, StateT.bind]
  cases t.write? file (fileText value).toUTF8 with
  | none => rfl
  | some t₁ =>
    simp only [Bool.not_true, Bool.false_eq_true, if_false, StateT.bind, Host.attempt]
    cases t₁.setMode? file Host.sharedMode with
    | none => rfl
    | some t₂ => rfl

/-- An allowlist file that has been written holds the text of the allowlist. -/
theorem read?_write {settings : Settings} {workingDir key value path : String} {t t' : FileTree}
    (h : AllowlistFile.write Host.ofFileTree settings workingDir key value t = (.ok path, t'))
    (hne : path ≠ "") : t'.read? path = some (fileText value).toUTF8 := by
  rw [write_ofFileTree] at h
  dsimp only at h
  split at h
  · cases h
  split at h
  · cases h
    exact absurd rfl hne
  next hwrite =>
    split at h
    · cases h
      exact absurd rfl hne
    next hmode =>
      cases h
      exact FileTree.read?_write?_setMode? hwrite hmode

/-- **Allowlists in files and in reviews.** What is written to the file of a route
is the text of its allowlist. The entries in it are those that a review takes
for the ones in effect exactly if the allowlist has no white space at an end or
no valid entry at all. -/
theorem written_eq_effective_iff (value : String) :
    (∀ (settings : Settings) (workingDir key path : String) (t t' : FileTree),
      AllowlistFile.write Host.ofFileTree settings workingDir key value t = (.ok path, t') →
        path ≠ "" → t'.read? path = some (fileText value).toUTF8) ∧
      (listed (fileText value) = words (parseAddressList value) ↔
        hasOuterBlank value = false ∨ entries value = []) := by
  refine ⟨fun settings workingDir key path t t' h hne => read?_write h hne, ?_⟩
  rw [listed_fileText, words_parseAddressList]
  cases hasOuterBlank value <;> simp

/-- A tree with a directory for allowlists. -/
def treeWithAllowlists : FileTree := { entries := .ofList [(["w"], .directory),
  (["w", "allowlists"], .directory)] }

theorem written_eq_effective_single :
    let written := AllowlistFile.write Host.ofFileTree {} "/w" "n:r" "10.0.0.1  bogus ::1"
      treeWithAllowlists
    written.1 = .ok "/w/allowlists/n:r.txt" ∧
      written.2.read? "/w/allowlists/n:r.txt" = some "10.0.0.1\n::1\n".toUTF8 ∧
      words (parseAddressList "10.0.0.1  bogus ::1") = ["10.0.0.1", "::1"] := by
  intro written
  have hpath : written.1 = .ok "/w/allowlists/n:r.txt" := rfl
  obtain ⟨hread, heffective⟩ := written_eq_effective_iff "10.0.0.1  bogus ::1"
  have hwords := heffective.2 (.inl rfl)
  exact ⟨hpath, hread {} "/w" "n:r" _ treeWithAllowlists written.2 (Prod.ext hpath rfl)
    (by decide), hwords ▸ rfl⟩

theorem written_ne_effective_of_leading_blank :
    listed (fileText " 10.0.0.1") = ["10.0.0.1"] ∧ words (parseAddressList " 10.0.0.1") = [] :=
  ⟨rfl, rfl⟩

end ProxyMaps.Allowlist
