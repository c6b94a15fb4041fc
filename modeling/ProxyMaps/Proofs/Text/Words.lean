/-
The words of a text. Everything follows from one equation,
`words_append_blank`: a blank parts the words in front of it from those behind
it. So words that are put together with blanks between them are read back
(`words_intercalate`), and what is put together so is trimmed already
(`trim_intercalate`).
-/
import Mathlib.Data.List.DropRight
import ProxyMaps.Text.Split

namespace ProxyMaps.Text

/-- A text that is one word: it is not empty, and there is no blank in it. -/
structure IsWord (w : List Char) : Prop where
  ne_nil : w ≠ []
  solid : ∀ c ∈ w, isBlank c = false

theorem wordsFrom_append_blank {c : Char} (hc : isBlank c = true) (w s t : List Char) :
    wordsFrom w (s ++ c :: t) = wordsFrom w s ++ words t := by
  induction s generalizing w with
  | nil =>
    simp only [List.nil_append, wordsFrom, hc, if_true, words]
    split <;> simp
  | cons d s ih =>
    simp only [List.cons_append, wordsFrom, ih]
    split
    · split <;> simp
    · rfl

theorem words_append_blank {c : Char} (hc : isBlank c = true) (s t : List Char) :
    words (s ++ c :: t) = words s ++ words t :=
  wordsFrom_append_blank hc [] s t

theorem isWord_reverse {v : List Char} (hv : ∀ c ∈ v, isBlank c = false)
    (hne : ¬ v.isEmpty = true) : IsWord v.reverse :=
  ⟨by simpa using hne, fun c hc => hv c (List.mem_reverse.1 hc)⟩

theorem isWord_of_mem_wordsFrom {w v s : List Char} (hv : ∀ c ∈ v, isBlank c = false)
    (h : w ∈ wordsFrom v s) : IsWord w := by
  induction s generalizing v with
  | nil =>
    simp only [wordsFrom] at h
    split at h
    · cases h
    next hne => exact List.mem_singleton.1 h ▸ isWord_reverse hv hne
  | cons c s ih =>
    have hnil : w ∈ wordsFrom [] s → IsWord w := ih (by simp)
    simp only [wordsFrom] at h
    split at h
    · split at h
      · exact hnil h
      next hne =>
        rcases List.mem_cons.1 h with rfl | h
        · exact isWord_reverse hv hne
        · exact hnil h
    next hc =>
      refine ih (fun d hd => ?_) h
      rcases List.mem_cons.1 hd with rfl | hd
      · simpa using hc
      · exact hv d hd

theorem isWord_of_mem {w s : List Char} (h : w ∈ words s) : IsWord w :=
  isWord_of_mem_wordsFrom (by simp) h

theorem IsWord.wordsFrom {w : List Char} (hw : ∀ c ∈ w, isBlank c = false) {v : List Char}
    (hne : v.reverse ++ w ≠ []) : wordsFrom v w = [v.reverse ++ w] := by
  induction w generalizing v with
  | nil => simpa [Text.wordsFrom] using hne
  | cons c w ih =>
    rw [Text.wordsFrom, hw c List.mem_cons_self, if_neg Bool.false_ne_true,
      ih (fun d hd => hw d (List.mem_cons_of_mem _ hd)) (by simp)]
    simp

theorem IsWord.words {w : List Char} (h : IsWord w) : words w = [w] :=
  IsWord.wordsFrom h.solid h.ne_nil

/-- Words with single blanks of any kind between them are read back. -/
theorem words_intercalate {c : Char} (hc : isBlank c = true) {ws : List (List Char)}
    (hws : ∀ w ∈ ws, IsWord w) : words ([c].intercalate ws) = ws := by
  induction ws with
  | nil => rfl
  | cons w ws ih =>
    have hw := (hws w List.mem_cons_self).words
    have hrest := ih fun v hv => hws v (List.mem_cons_of_mem _ hv)
    cases ws with
    | nil => simpa using hw
    | cons v vs =>
      rw [List.intercalate_cons_cons, List.append_assoc, List.singleton_append,
        words_append_blank hc, hw, hrest]
      rfl

/-! ## Trimming -/

/-- A text without white space at its ends is trimmed already. -/
theorem trim_eq_self {s : List Char} (hhead : ∀ c ∈ s.head?, isBlank c = false)
    (hlast : ∀ c ∈ s.getLast?, isBlank c = false) : trim s = s := by
  have hleft : trimLeft s = s := by
    cases s with
    | nil => rfl
    | cons c s => exact List.dropWhile_cons_of_neg (by simp [hhead c rfl])
  rw [trim, hleft]
  refine List.rdropWhile_eq_self_iff.2 fun hne => ?_
  simp [hlast _ (List.getLast?_eq_getLast_of_ne_nil hne)]

section

variable {c : Char} {ws : List (List Char)}

theorem head?_intercalate (hws : ∀ w ∈ ws, IsWord w) :
    ∀ d ∈ ([c].intercalate ws).head?, isBlank d = false := by
  intro d hd
  match ws with
  | [] => cases hd
  | w :: vs =>
    have hw := hws w List.mem_cons_self
    obtain ⟨b, w, rfl⟩ := List.exists_cons_of_ne_nil hw.ne_nil
    have hb : d = b := by cases vs <;> simpa [eq_comm] using hd
    exact hb ▸ hw.solid b List.mem_cons_self

theorem getLast?_intercalate (hc : isBlank c = true) (hws : ∀ w ∈ ws, IsWord w) :
    ∀ d ∈ ([c].intercalate ws).getLast?, isBlank d = false := by
  induction ws with
  | nil => nofun
  | cons w ws ih =>
    have hrest : ∀ v ∈ ws, IsWord v := fun v hv => hws v (List.mem_cons_of_mem _ hv)
    cases ws with
    | nil =>
      intro d hd
      rw [List.intercalate_singleton] at hd
      exact (hws w List.mem_cons_self).solid d (List.mem_of_getLast? hd)
    | cons v vs =>
      have hne : [c].intercalate (v :: vs) ≠ [] := fun h => by
        have hwords := words_intercalate hc hrest
        rw [h] at hwords
        cases hwords
      rw [List.intercalate_cons_cons, List.getLast?_append_of_ne_nil _ hne]
      exact ih hrest

/-- Words with single blanks between them have no white space at their ends. -/
theorem trim_intercalate (hc : isBlank c = true) (hws : ∀ w ∈ ws, IsWord w) :
    trim ([c].intercalate ws) = [c].intercalate ws :=
  trim_eq_self (head?_intercalate hws) (getLast?_intercalate hc hws)

end

end ProxyMaps.Text
