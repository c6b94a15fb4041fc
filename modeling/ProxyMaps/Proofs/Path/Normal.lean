/-
Paths without detours. Empty parts and single dots of a path lead nowhere, and
two dots lead back over the part in front of them; at the root they lead
nowhere, and at the start of a relative path they stay.

What a relative list of parts does to a stack of parts depends on whether it
ever leads back over its own start. If not, it only adds to the stack
(`foldl_walk_append`), and else what was on top of the stack is of no matter
(`foldl_walk_cons`).
-/
import ProxyMaps.FileTree
import ProxyMaps.Proofs.HostPattern.Parts
import ProxyMaps.Proofs.Text.Split

namespace ProxyMaps.Path

/-- The part that leads back over the part in front of it. -/
def back : List Char := ['.', '.']

/-- A stack of parts, the last one on top, after one part more. -/
def walk (absolute : Bool) (stack : List (List Char)) (part : List Char) : List (List Char) :=
  if part = [] ∨ part = ['.'] then stack
  else if part = back then
    match stack with
    | [] => if absolute then [] else [back]
    | last :: rest => if last = back then back :: last :: rest else rest
  else part :: stack

/-- A path without detours. -/
structure Normal where
  absolute : Bool
  /-- The parts, the last one first. -/
  parts : List (List Char)
  deriving DecidableEq, Repr

/-- A path without its detours. -/
def normal (path : String) : Normal where
  absolute := isAbsolute path
  parts := (List.splitOn '/' path.toList).foldl (walk (isAbsolute path)) []

/-- Without detours a path is that of a directory and one name more. -/
def DirectlyInside (path dir : String) : Prop :=
  ∃ name, name ≠ back ∧ normal path = ⟨(normal dir).absolute, name :: (normal dir).parts⟩

/-! ## Walks -/

section Walk

variable {a : Bool} {part : List Char} {stack top : List (List Char)}

theorem walk_nil : walk a stack [] = stack := by simp [walk]

theorem walk_name (h : part ≠ []) (hdot : part ≠ ['.']) (hback : part ≠ back) :
    walk a stack part = part :: stack := by
  simp [walk, h, hdot, hback]

/-- Relative to its start a walk never comes back from above the start. -/
theorem back_mem_walk (h : back ∈ stack) : back ∈ walk false stack part := by
  unfold walk
  split
  · exact h
  · split
    · cases stack with
      | nil => simp
      | cons last rest =>
        by_cases hlast : last = back
        · simp [hlast]
        · simpa [hlast, Ne.symm hlast] using h
    · exact List.mem_cons_of_mem _ h

theorem back_mem_foldl_walk {parts : List (List Char)} (h : back ∈ stack) :
    back ∈ parts.foldl (walk false) stack := by
  induction parts generalizing stack with
  | nil => exact h
  | cons part parts ih => exact ih (back_mem_walk h)

theorem walk_append (h : back ∉ walk false top part) :
    walk a (top ++ stack) part = walk false top part ++ stack := by
  unfold walk at h ⊢
  split
  · rfl
  · rename_i hpart
    rw [if_neg hpart] at h
    split
    · rename_i hb
      rw [if_pos hb] at h
      cases top with
      | nil => simp at h
      | cons last rest =>
        by_cases hlast : last = back
        · simp [hlast] at h
        · simp [hlast]
    · rfl

/-- A walk that stays below its start leaves what is above the start as it is. -/
theorem foldl_walk_append {parts : List (List Char)}
    (h : back ∉ parts.foldl (walk false) top) :
    parts.foldl (walk a) (top ++ stack) = parts.foldl (walk false) top ++ stack := by
  induction parts generalizing top with
  | nil => rfl
  | cons part parts ih =>
    rw [List.foldl_cons] at h
    have hstep : back ∉ walk false top part := fun hb => h (back_mem_foldl_walk hb)
    rw [List.foldl_cons, List.foldl_cons, walk_append hstep, ih h]

/-- Only two dots at the very start lead out of it. -/
theorem eq_of_back_mem_walk (h : back ∉ stack) (hstep : back ∈ walk false stack part) :
    stack = [] ∧ part = back := by
  unfold walk at hstep
  split at hstep
  · exact absurd hstep h
  · split at hstep
    · rename_i hb
      cases stack with
      | nil => exact ⟨rfl, hb⟩
      | cons last rest =>
        simp only [List.mem_cons, not_or] at h
        simp [Ne.symm h.1, h.2] at hstep
    · rename_i hb
      rcases List.mem_cons.1 hstep with hstep | hstep
      · exact absurd hstep.symm hb
      · exact absurd hstep h

theorem walk_back {name : List Char} (h : name ≠ back) : walk a (name :: stack) back = stack := by
  rw [walk, if_neg (by decide), if_pos rfl]
  exact if_neg h

/-- A walk that leaves its start upwards takes off whatever name is there. -/
theorem foldl_walk_cons {parts : List (List Char)} {name name' : List Char}
    (hname : name ≠ back) (hname' : name' ≠ back) (htop : back ∉ top)
    (h : back ∈ parts.foldl (walk false) top) :
    parts.foldl (walk a) (top ++ name :: stack) = parts.foldl (walk a) (top ++ name' :: stack) := by
  induction parts generalizing top with
  | nil => exact absurd h htop
  | cons part parts ih =>
    rw [List.foldl_cons] at h
    rw [List.foldl_cons, List.foldl_cons]
    by_cases hstep : back ∈ walk false top part
    · obtain ⟨rfl, rfl⟩ := eq_of_back_mem_walk htop hstep
      rw [List.nil_append, List.nil_append, walk_back hname, walk_back hname']
    · rw [walk_append hstep, walk_append hstep]
      exact ih hstep h

end Walk

/-! ## Joined paths -/

theorem isAbsolute_append {s : String} (h : s ≠ "") (t : String) :
    isAbsolute (s ++ t) = isAbsolute s := by
  obtain ⟨c, cs, hcs⟩ := List.exists_cons_of_ne_nil (mt String.toList_eq_nil_iff.1 h)
  simp [isAbsolute, hcs]

theorem normal_append {s : String} (h : s ≠ "") (t : String) :
    normal (s ++ "/" ++ t) = ⟨isAbsolute s,
      (List.splitOn '/' t.toList).foldl (walk (isAbsolute s)) (normal s).parts⟩ := by
  have htext : (s ++ "/" ++ t).toList = s.toList ++ '/' :: t.toList := by
    simp [String.toList_append]
  have hroot : isAbsolute (s ++ "/" ++ t) = isAbsolute s := by
    rw [String.append_assoc, isAbsolute_append h]
  simp only [normal, hroot, htext, List.splitOn_append_cons_self, List.foldl_append]

/-- A slash at the end of a path is of no matter. -/
theorem normal_append_of_endsWithSlash {s : String} (h : endsWithSlash s = true) (t : String) :
    normal (s ++ t) = ⟨isAbsolute s,
      (List.splitOn '/' t.toList).foldl (walk (isAbsolute s)) (normal s).parts⟩ := by
  simp only [endsWithSlash, decide_eq_true_eq, List.getLast?_eq_some_iff] at h
  obtain ⟨front, hfront⟩ := h
  have hs : s ≠ "" := by
    rintro rfl
    simp at hfront
  have htext : (s ++ t).toList = front ++ '/' :: t.toList := by
    simp [String.toList_append, hfront]
  have hparts : (normal s).parts = (List.splitOn '/' front).foldl (walk (isAbsolute s)) [] := by
    rw [normal, hfront, List.splitOn_append_cons_self, List.foldl_append]
    simp [List.splitOn, walk_nil]
  rw [hparts]
  simp only [normal, isAbsolute_append hs, htext, List.splitOn_append_cons_self, List.foldl_append]

theorem normal_join {s t : String} (hs : s ≠ "") (ht : isAbsolute t = false) :
    normal (join s t) = ⟨isAbsolute s,
      (List.splitOn '/' t.toList).foldl (walk (isAbsolute s)) (normal s).parts⟩ := by
  unfold join
  rw [if_neg (by simp [ht])]
  by_cases h : endsWithSlash s = true
  · rw [if_pos (by simp [h]), normal_append_of_endsWithSlash h]
  · rw [if_neg (by simp [h, hs]), normal_append hs]

/-! ## Names of files -/

/-- What stands in front of the last slash of a path; without a slash that is nothing. -/
def folder (path : String) : String :=
  match Text.cutLast? '/' path.toList with
  | some (front, _) => String.ofList front
  | none => ""

/-- What stands behind the last slash of a path. -/
def lastName (path : String) : List Char :=
  match Text.cutLast? '/' path.toList with
  | some (_, name) => name
  | none => path.toList

theorem folder_of_not_mem {path : String} (h : '/' ∉ path.toList) : folder path = "" := by
  rw [folder, Text.cutLast?_eq_none_iff.2 h]

theorem lastName_of_not_mem {path : String} (h : '/' ∉ path.toList) :
    lastName path = path.toList := by
  rw [lastName, Text.cutLast?_eq_none_iff.2 h]

theorem isAbsolute_folder {path : String} (h : isAbsolute path = false) :
    isAbsolute (folder path) = false := by
  unfold folder
  cases hcut : Text.cutLast? '/' path.toList with
  | none => rfl
  | some p =>
    obtain ⟨hsplit, -⟩ := Text.eq_append_of_cutLast? hcut
    unfold isAbsolute at h ⊢
    rw [hsplit] at h
    cases hfront : p.1 with
    | nil => simp [hfront] at h
    | cons c front => simpa [hfront] using h

/-- The way to a file is the way to its folder and then its name. -/
theorem foldl_walk_file {a : Bool} {stack : List (List Char)} {path ending : String}
    (h : '/' ∉ ending.toList) :
    (List.splitOn '/' (path ++ ending).toList).foldl (walk a) stack =
      walk a ((List.splitOn '/' (folder path).toList).foldl (walk a) stack)
        (lastName path ++ ending.toList) := by
  cases hcut : Text.cutLast? '/' path.toList with
  | none =>
    have hpath := Text.cutLast?_eq_none_iff.1 hcut
    have hslash : '/' ∉ (path ++ ending).toList := by simp [String.toList_append, hpath, h]
    rw [folder_of_not_mem hpath, lastName_of_not_mem hpath, List.splitOn_eq_singleton hslash]
    simp [List.splitOn, walk_nil, String.toList_append]
  | some p =>
    obtain ⟨hsplit, hname⟩ := Text.eq_append_of_cutLast? hcut
    have hlast : '/' ∉ p.2 ++ ending.toList := by simp [hname, h]
    have htext : (path ++ ending).toList = p.1 ++ '/' :: (p.2 ++ ending.toList) := by
      simp [String.toList_append, hsplit]
    rw [htext, List.splitOn_append_cons_self, List.splitOn_eq_singleton hlast,
      List.foldl_append, folder, lastName, hcut]
    simp

end ProxyMaps.Path
