/-
What a file holds after it has been written. A file that is put where no
directory is does not change which places are directories, so paths lead where
they led (`filePlace?_put`), the file is found with its bytes (`read?_put`), and
files at other places keep theirs (`read?_put_of_ne`). So of several files that
are written in one directory under different names each holds what was written
to it (`Written.read?_eq`), and writing one takes no place from another
(`exists_written`).
-/
import ProxyMaps.FileTree

namespace ProxyMaps.FileTree

/-- The tree with a file at a place. -/
def put (t : FileTree) (place : List String) (bytes : ByteArray) (mode : Nat) : FileTree :=
  { t with entries := t.entries.insert place (.file bytes mode) }

section

variable {t : FileTree} {place : List String} (h : t.isDirectory place = false)
  (bytes : ByteArray) (mode : Nat)

include h

theorem isDirectory_put (q : List String) :
    (t.put place bytes mode).isDirectory q = t.isDirectory q := by
  by_cases hq : q = place
  · subst hq
    simp only [isDirectory, Bool.or_eq_false_iff] at h
    simp [isDirectory, put, Table.find?_insert, h]
  · simp [isDirectory, put, Table.find?_insert, hq]

theorem walk?_put (start parts : List String) :
    (t.put place bytes mode).walk? start parts = t.walk? start parts := by
  induction parts generalizing start with
  | nil => rfl
  | cons part rest ih => simp only [walk?, isDirectory_put h, ih]

theorem filePlace?_put (path : String) :
    (t.put place bytes mode).filePlace? path = t.filePlace? path := by
  simp only [filePlace?, walk?_put h]
  rfl

theorem read?_put {path : String} (hp : t.filePlace? path = some place) :
    (t.put place bytes mode).read? path = some bytes := by
  rw [read?, filePlace?_put h, hp]
  simp [put, Table.find?_insert]

theorem read?_put_of_ne {path : String} (hp : t.filePlace? path ≠ some place) :
    (t.put place bytes mode).read? path = t.read? path := by
  rw [read?, read?, filePlace?_put h]
  cases hq : t.filePlace? path with
  | none => rfl
  | some q =>
    have hne : q ≠ place := fun heq => hp (heq ▸ hq)
    simp [put, Table.find?_insert, hne]

end

theorem exists_put_of_write? {t t' : FileTree} {path : String} {bytes : ByteArray}
    (h : t.write? path bytes = some t') : ∃ place mode, t.filePlace? path = some place ∧
      t.isDirectory place = false ∧ t' = t.put place bytes mode := by
  simp only [write?, Option.bind_eq_bind, Option.bind_eq_some_iff] at h
  obtain ⟨place, hplace, h⟩ := h
  split at h
  · cases h
  next hdir => exact ⟨place, _, hplace, by simpa using hdir, (Option.some.inj h).symm⟩

theorem exists_put_of_setMode? {t t' : FileTree} {path : String} {mode : Nat}
    (h : t.setMode? path mode = some t') : ∃ place bytes, t.filePlace? path = some place ∧
      t.read? path = some bytes ∧ t' = t.put place bytes mode := by
  simp only [setMode?, Option.bind_eq_bind, Option.bind_eq_some_iff] at h
  obtain ⟨place, hplace, h⟩ := h
  split at h
  next bytes old hfile =>
    refine ⟨place, bytes, hplace, ?_, (Option.some.inj h).symm⟩
    simp [read?, hplace, hfile]
  · cases h

/-- A file that has been written and given a mode holds what was written. -/
theorem read?_write?_setMode? {t₀ t₁ t₂ : FileTree} {path : String} {bytes : ByteArray} {mode : Nat}
    (hwrite : t₀.write? path bytes = some t₁) (hmode : t₁.setMode? path mode = some t₂) :
    t₂.read? path = some bytes := by
  obtain ⟨place, old, hplace, hdir, rfl⟩ := exists_put_of_write? hwrite
  obtain ⟨place', bytes', hplace', hread, rfl⟩ := exists_put_of_setMode? hmode
  rw [filePlace?_put hdir, hplace] at hplace'
  obtain rfl := Option.some.inj hplace'
  rw [read?_put hdir _ _ hplace] at hread
  obtain rfl := Option.some.inj hread
  have hdir' := isDirectory_put hdir bytes old place
  rw [hdir] at hdir'
  exact read?_put hdir' _ _ (filePlace?_put hdir _ _ path ▸ hplace)

/-! ## Several files in one directory -/

/-- A text that names a file in a directory. -/
structure IsFileName (name : String) : Prop where
  ne_empty : name ≠ ""
  no_slash : '/' ∉ name.toList

theorem parts_join (dir : String) {name : String} (h : IsFileName name) :
    ∃ front, parts (Path.join dir name) = front ++ [name] := by
  have hname : name.toList.isEmpty = false := by
    rw [List.isEmpty_eq_false_iff, ne_eq, String.toList_eq_nil_iff]
    exact h.ne_empty
  have hparts : ∀ {path : String} (front : List (List Char)),
      List.splitOn '/' path.toList = front ++ [name.toList] →
      ∃ front, parts path = front ++ [name] := by
    intro path front hsplit
    refine ⟨(front.filter fun p => !p.isEmpty).map String.ofList, ?_⟩
    simp [parts, hsplit, List.filter_append, hname]
  have hsplit := List.splitOn_eq_singleton h.no_slash
  have habsolute : Path.isAbsolute name = false := by
    unfold Path.isAbsolute
    rw [decide_eq_false_iff_not]
    exact fun hhead => h.no_slash (List.mem_of_mem_head? hhead)
  rw [Path.join, habsolute, if_neg Bool.false_ne_true]
  split
  next hdir =>
    rcases Bool.or_eq_true_iff.1 hdir with hempty | hslash
    · rw [String.isEmpty_iff.1 hempty, String.empty_append]
      exact hparts [] hsplit
    · obtain ⟨front, hfront⟩ := List.getLast?_eq_some_iff.1 (of_decide_eq_true hslash)
      refine hparts (List.splitOn '/' front) ?_
      rw [String.toList_append, hfront, List.append_assoc, List.singleton_append,
        List.splitOn_append_cons_self, hsplit]
  · have hslash : "/".toList = ['/'] := rfl
    refine hparts (List.splitOn '/' dir.toList) ?_
    rw [String.toList_append, String.toList_append, hslash, List.append_assoc,
      List.singleton_append, List.splitOn_append_cons_self, hsplit]

/-- A file stands at a place with its own name. -/
theorem getLast?_of_filePlace? {t : FileTree} {dir name : String} {place : List String}
    (h : IsFileName name) (hp : t.filePlace? (Path.join dir name) = some place) :
    place.getLast? = some name := by
  obtain ⟨front, hparts⟩ := parts_join dir h
  simp only [filePlace?, hparts, List.getLast?_concat] at hp
  split at hp
  · cases hp
  · obtain ⟨q, -, rfl⟩ := Option.map_eq_some_iff.1 hp
    rw [List.getLast?_concat]

/-- Files of some names have been written in a directory one after the other. -/
inductive Written (dir : String) (text : String → String) :
    List String → FileTree → FileTree → Prop where
  | nil {t : FileTree} : Written dir text [] t t
  | cons {name : String} {names : List String} {t t₁ t₂ : FileTree}
      (hwrite : t.write? (Path.join dir name) (text name).toUTF8 = some t₁)
      (hrest : Written dir text names t₁ t₂) : Written dir text (name :: names) t t₂

section

variable {dir : String} {text : String → String} {names : List String} {t t' : FileTree}

theorem Written.read?_of_notMem (h : Written dir text names t t')
    (hnames : ∀ name ∈ names, IsFileName name) {name : String} (hname : IsFileName name)
    (hnot : name ∉ names) : t'.read? (Path.join dir name) = t.read? (Path.join dir name) := by
  induction h with
  | nil => rfl
  | cons hwrite hrest ih =>
    rw [List.mem_cons, not_or] at hnot
    rw [ih (fun m hm => hnames m (List.mem_cons_of_mem _ hm)) hnot.2]
    obtain ⟨place, mode, hplace, hdir, rfl⟩ := exists_put_of_write? hwrite
    refine read?_put_of_ne hdir _ _ fun hsame => hnot.1 ?_
    have hlast := getLast?_of_filePlace? (hnames _ List.mem_cons_self) hplace
    rw [getLast?_of_filePlace? hname hsame] at hlast
    exact Option.some.inj hlast

/-- Files that have been written in a directory hold what was written. -/
theorem Written.read?_eq (h : Written dir text names t t')
    (hnames : ∀ name ∈ names, IsFileName name) (hdistinct : names.Nodup) :
    ∀ name ∈ names, t'.read? (Path.join dir name) = some (text name).toUTF8 := by
  induction h with
  | nil => exact fun _ hm => absurd hm List.not_mem_nil
  | cons hwrite hrest ih =>
    have hrestNames := fun m hm => hnames m (List.mem_cons_of_mem _ hm)
    rw [List.nodup_cons] at hdistinct
    intro name hm
    rcases List.mem_cons.1 hm with rfl | hm
    · rw [hrest.read?_of_notMem hrestNames (hnames name List.mem_cons_self) hdistinct.1]
      obtain ⟨place, mode, hplace, hdir, rfl⟩ := exists_put_of_write? hwrite
      exact read?_put hdir _ _ hplace
    · exact ih hrestNames hdistinct.2 name hm

end

/-! ## Which files can be written -/

/-- A file can be written under a path: there is a place for it, which is no directory. -/
def CanWrite (t : FileTree) (path : String) : Prop :=
  ∃ place, t.filePlace? path = some place ∧ t.isDirectory place = false

instance (t : FileTree) (path : String) : Decidable (t.CanWrite path) :=
  decidable_of_iff ((t.filePlace? path).any fun place => !t.isDirectory place) (by
    simp [CanWrite, Option.any_eq_true])

theorem CanWrite.exists_put {t : FileTree} {path : String} (h : t.CanWrite path)
    (bytes : ByteArray) : ∃ place mode, t.isDirectory place = false ∧
      t.write? path bytes = some (t.put place bytes mode) := by
  obtain ⟨place, hplace, hdir⟩ := h
  refine ⟨place, (t.mode? path).getD newMode, hdir, ?_⟩
  simp [write?, hplace, hdir, put]

/-- Files that can be written in a directory can be written there one after the other. -/
theorem exists_written {dir : String} {names : List String} {t : FileTree}
    (h : ∀ name ∈ names, t.CanWrite (Path.join dir name)) (text : String → String) :
    ∃ t', Written dir text names t t' := by
  induction names generalizing t with
  | nil => exact ⟨t, .nil⟩
  | cons name names ih =>
    obtain ⟨place, mode, hdir, hwrite⟩ := (h name List.mem_cons_self).exists_put (text name).toUTF8
    have hrest : ∀ m ∈ names, (t.put place (text name).toUTF8 mode).CanWrite (Path.join dir m) := by
      intro m hm
      obtain ⟨q, hq, hqdir⟩ := h m (List.mem_cons_of_mem _ hm)
      exact ⟨q, (filePlace?_put hdir _ _ _).trans hq, (isDirectory_put hdir _ _ _).trans hqdir⟩
    obtain ⟨t', ht'⟩ := ih hrest
    exact ⟨t', .cons hwrite ht'⟩

end ProxyMaps.FileTree
