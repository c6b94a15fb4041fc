/-
What comes of a rewrite target that stands between single quotes.

Everything goes through one equation, `rewriteChars_eq`: a target is cut at
the first place that it must not go past (`kept`), and each character up to
there is written on its own. The cut is the longest beginning of the target
that is `Clean`; what is written is read back inside of the quotes, a
character at a time.
-/
import ProxyMaps.Annotation

namespace ProxyMaps.AnnotationValue

/-! ## What is kept of a target -/

/-- What a scan for escape pairs finds, from the left. -/
inductive Piece where
  /-- A backslash with a second backslash or a hash. -/
  | pair (second : Char)
  /-- A character that is in no pair. -/
  | single (c : Char)
  deriving DecidableEq, Repr

/-- The pieces of a text; a doubled backslash and a backslash with a hash are the only pairs. -/
def pieces : List Char → List Piece
  | '\\' :: c :: rest =>
    if c = '\\' ∨ c = '#' then .pair c :: pieces rest else .single '\\' :: pieces (c :: rest)
  | c :: rest => .single c :: pieces rest
  | [] => []

/-- No hash outside of pairs, and no backslash left over at the end. -/
def Clean (s : List Char) : Prop :=
  .single '#' ∉ pieces s ∧ (pieces s).getLast? ≠ some (.single '\\')

/-- The longest clean beginning of a text. -/
structure IsKept (s k : List Char) : Prop where
  isPrefix : k <+: s
  clean : Clean k
  longest : ∀ p, p <+: s → Clean p → p.length ≤ k.length

theorem pieces_single {c : Char} (hc : c ≠ '\\') (s : List Char) :
    pieces (c :: s) = .single c :: pieces s := by
  rw [pieces]
  intro d rest h
  exact absurd h hc

theorem pieces_ne_nil (c : Char) (s : List Char) : pieces (c :: s) ≠ [] := by
  by_cases hc : c = '\\'
  · subst hc
    cases s with
    | nil => simp [pieces]
    | cons d s =>
      rw [pieces]
      split <;> simp
  · simp [pieces_single hc]

theorem clean_nil : Clean [] := by simp [Clean, pieces]

theorem clean_iff_of_pieces {s t : List Char} {p : Piece} (h : pieces s = p :: pieces t) :
    Clean s ↔ p ≠ .single '#' ∧ (t = [] → p ≠ .single '\\') ∧ Clean t := by
  rw [Clean, Clean, h]
  cases t with
  | nil => simp [pieces, eq_comm]
  | cons c t =>
    have hne := pieces_ne_nil c t
    cases ht : pieces (c :: t) with
    | nil => exact absurd ht hne
    | cons q qs => simp [List.getLast?_cons_cons, eq_comm, and_assoc]

theorem clean_pair {c : Char} (hc : c = '\\' ∨ c = '#') {s : List Char} :
    Clean ('\\' :: c :: s) ↔ Clean s := by
  have hp : pieces ('\\' :: c :: s) = .pair c :: pieces s := by rw [pieces, if_pos hc]
  simp [clean_iff_of_pieces hp]

theorem clean_lone {c : Char} (hc : ¬ (c = '\\' ∨ c = '#')) {s : List Char} :
    Clean ('\\' :: c :: s) ↔ Clean (c :: s) := by
  have hp : pieces ('\\' :: c :: s) = .single '\\' :: pieces (c :: s) := by
    rw [pieces, if_neg hc]
  simp [clean_iff_of_pieces hp]

theorem clean_single {c : Char} (hc : c ≠ '\\') {s : List Char} :
    Clean (c :: s) ↔ c ≠ '#' ∧ Clean s := by
  simp [clean_iff_of_pieces (pieces_single hc s), hc]

theorem not_clean_backslash : ¬ Clean ['\\'] := by simp [Clean, pieces]

/-- A text up to its first hash outside of pairs or its dangling backslash. -/
def kept : List Char → List Char
  | '\\' :: c :: rest =>
    if c = '\\' ∨ c = '#' then '\\' :: c :: kept rest else '\\' :: kept (c :: rest)
  | c :: rest => if c = '\\' ∨ c = '#' then [] else c :: kept rest
  | [] => []

theorem isKept_nil {s : List Char} (h : ∀ p, p <+: s → Clean p → p = []) : IsKept s [] where
  isPrefix := List.nil_prefix
  clean := clean_nil
  longest p hp hc := by simp [h p hp hc]

theorem IsKept.pair {c : Char} (hc : c = '\\' ∨ c = '#') {s k : List Char} (h : IsKept s k) :
    IsKept ('\\' :: c :: s) ('\\' :: c :: k) where
  isPrefix := by simpa using h.isPrefix
  clean := (clean_pair hc).2 h.clean
  longest p hp hclean := by
    match p with
    | [] => simp
    | [d] =>
      rw [List.cons_prefix_cons] at hp
      exact absurd (hp.1 ▸ hclean) not_clean_backslash
    | d :: e :: p =>
      simp only [List.cons_prefix_cons] at hp
      obtain ⟨rfl, rfl, hp⟩ := hp
      have := h.longest p hp ((clean_pair hc).1 hclean)
      simpa using this

theorem IsKept.lone {c : Char} (hc : ¬ (c = '\\' ∨ c = '#')) {s k : List Char}
    (h : IsKept (c :: s) (c :: k)) : IsKept ('\\' :: c :: s) ('\\' :: c :: k) where
  isPrefix := by simpa using h.isPrefix
  clean := (clean_lone hc).2 h.clean
  longest p hp hclean := by
    match p with
    | [] => simp
    | [d] => simp
    | d :: e :: p =>
      rw [List.cons_prefix_cons] at hp
      obtain ⟨rfl, hp⟩ := hp
      obtain rfl := (List.cons_prefix_cons.1 hp).1
      have := h.longest (e :: p) hp ((clean_lone hc).1 hclean)
      simpa using this

theorem IsKept.single {c : Char} (hc : ¬ (c = '\\' ∨ c = '#')) {s k : List Char}
    (h : IsKept s k) : IsKept (c :: s) (c :: k) where
  isPrefix := by simpa using h.isPrefix
  clean := (clean_single fun h => hc (.inl h)).2 ⟨fun h => hc (.inr h), h.clean⟩
  longest p hp hclean := by
    match p with
    | [] => simp
    | d :: p =>
      rw [List.cons_prefix_cons] at hp
      obtain ⟨rfl, hp⟩ := hp
      have := h.longest p hp ((clean_single fun h => hc (.inl h)).1 hclean).2
      simpa using this

theorem kept_single {c : Char} (hc : ¬ (c = '\\' ∨ c = '#')) (s : List Char) :
    kept (c :: s) = c :: kept s := by
  rw [kept, if_neg hc]
  intro d rest h
  exact absurd (.inl h) hc

theorem isKept_kept (s : List Char) : IsKept s (kept s) := by
  fun_induction kept s with
  | case1 c rest hc ih => exact ih.pair hc
  | case2 c rest hc ih =>
    rw [kept_single hc] at ih ⊢
    exact ih.lone hc
  | case3 c rest hlast hc =>
    refine isKept_nil fun p hp hclean => ?_
    match p with
    | [] => rfl
    | d :: p =>
      rw [List.cons_prefix_cons] at hp
      obtain ⟨rfl, hp⟩ := hp
      rcases hc with rfl | rfl
      · -- nothing follows the backslash, so it would dangle
        cases rest with
        | nil =>
          obtain rfl := List.prefix_nil.1 hp
          exact absurd hclean not_clean_backslash
        | cons e rest => exact absurd rfl (hlast e rest rfl)
      · exact absurd rfl ((clean_single (by decide)).1 hclean).1
  | case4 c rest hlast hc ih => exact ih.single hc
  | case5 => exact isKept_nil fun p hp _ => List.prefix_nil.1 hp

/-! ## How it is written -/

theorem rewriteChars_single {c : Char} (hc : ¬ (c = '\\' ∨ c = '#')) (s : List Char) :
    rewriteChars (c :: s) = rewriteChar c ++ rewriteChars s := by
  rw [not_or] at hc
  rw [rewriteChars]
  · exact fun rest h => absurd h hc.1
  · exact fun rest h => absurd h hc.1
  · exact fun h => absurd h hc.1
  · exact hc.2

theorem rewriteChars_lone {c : Char} (hc : ¬ (c = '\\' ∨ c = '#')) (s : List Char) :
    rewriteChars ('\\' :: c :: s) = '\\' :: rewriteChars (c :: s) := by
  rw [not_or] at hc
  rw [rewriteChars]
  · rfl
  · simp [hc]
  · simp [hc]
  · simp
  · simp

/-- A rewrite target is written character by character, up to where it is cut. -/
theorem rewriteChars_eq (s : List Char) : rewriteChars s = (kept s).flatMap rewriteChar := by
  fun_induction kept s with
  | case1 c rest hc ih =>
    rcases hc with rfl | rfl
    · simp [rewriteChars, rewriteChar, ih]
    · simp [rewriteChars, rewriteChar, ih]
  | case2 c rest hc ih => 
    rw [rewriteChars_lone hc, ih, List.flatMap_cons]
    rfl
  | case3 c rest hlast hc =>
    rcases hc with rfl | rfl
    · cases rest with
      | nil => rfl
      | cons d rest => exact absurd rfl (hlast d rest rfl)
    · rw [rewriteChars]
      rfl
  | case4 c rest hlast hc ih => rw [rewriteChars_single hc, ih, List.flatMap_cons]
  | case5 => rfl

theorem Clean.rewriteChar_append {c : Char} (hc : ¬ (c = '\\' ∨ c = '#')) {s : List Char}
    (h : Clean s) : Clean (rewriteChar c ++ s) := by
  have hquote : ∀ {t : List Char}, Clean t → Clean ('\'' :: t) := fun ht =>
    (clean_single (by decide)).2 ⟨by decide, ht⟩
  rw [not_or] at hc
  unfold rewriteChar
  split
  · exact (clean_single (by decide)).2 ⟨by decide, (clean_single (by decide)).2 ⟨by decide, h⟩⟩
  · split
    · exact hquote ((clean_lone (by decide)).2 (hquote (hquote h)))
    · exact (clean_single hc.1).2 ⟨hc.2, h⟩

/-- What a character is written as does not make a pair with a backslash in front of it. -/
theorem rewriteChar_eq_cons {c : Char} (hc : ¬ (c = '\\' ∨ c = '#')) :
    ∃ d ds, rewriteChar c = d :: ds ∧ ¬ (d = '\\' ∨ d = '#') := by
  unfold rewriteChar
  split
  · exact ⟨_, _, rfl, by decide⟩
  · split
    · exact ⟨_, _, rfl, by decide⟩
    · exact ⟨_, _, rfl, hc⟩

theorem Clean.flatMap_rewriteChar {k : List Char} (h : Clean k) :
    Clean (k.flatMap rewriteChar) := by
  fun_induction pieces k with
  | case1 c rest hc ih =>
    have hrest := ih ((clean_pair hc).1 h)
    have hc' : rewriteChar c = [c] := by rcases hc with rfl | rfl <;> rfl
    rw [List.flatMap_cons, List.flatMap_cons, hc']
    exact (clean_pair hc).2 hrest
  | case2 c rest hc ih =>
    have hrest := ih ((clean_lone hc).1 h)
    obtain ⟨d, ds, hd, hd'⟩ := rewriteChar_eq_cons hc
    rw [List.flatMap_cons, hd] at hrest
    rw [List.flatMap_cons, List.flatMap_cons, hd]
    exact (clean_lone hd').2 hrest
  | case3 c rest hlast ih =>
    by_cases hc : c = '\\'
    · subst hc
      cases rest with
      | nil => exact absurd h not_clean_backslash
      | cons d rest => exact absurd rfl (hlast d rest rfl)
    · obtain ⟨hhash, hrest⟩ := (clean_single hc).1 h
      rw [List.flatMap_cons]
      exact (ih hrest).rewriteChar_append (by simp [hc, hhash])
  | case4 => exact clean_nil

/-! ## Backslashes at the end -/

/-- The number of backslashes that a text ends with. -/
def endingBackslashes (s : List Char) : Nat := (s.reverse.takeWhile (· = '\\')).length

theorem endingBackslashes_le (s : List Char) : endingBackslashes s ≤ s.length := by
  have := (List.takeWhile_prefix (l := s.reverse) (· = '\\')).length_le
  simpa [endingBackslashes] using this

theorem endingBackslashes_cons (c : Char) (s : List Char) :
    endingBackslashes (c :: s) =
      if c = '\\' ∧ endingBackslashes s = s.length then s.length + 1 else endingBackslashes s := by
  unfold endingBackslashes
  rw [List.reverse_cons, List.takeWhile_append]
  by_cases hs : (s.reverse.takeWhile (· = '\\')).length = s.length
  · by_cases hc : c = '\\' <;> simp [hs, hc]
  · simp [hs]

theorem Clean.even_endingBackslashes {s : List Char} (h : Clean s) :
    endingBackslashes s % 2 = 0 := by
  fun_induction pieces s with
  | case1 c rest hc ih =>
    have heven := ih ((clean_pair hc).1 h)
    have hle := endingBackslashes_le rest
    rcases hc with rfl | rfl
    · by_cases hall : endingBackslashes rest = rest.length
      · simp [endingBackslashes_cons, hall]
        omega
      · have hne : endingBackslashes rest ≠ rest.length + 1 := by omega
        simpa [endingBackslashes_cons, hall, hne] using heven
    · have hne : endingBackslashes rest ≠ rest.length + 1 := by omega
      simpa [endingBackslashes_cons, hne] using heven
  | case2 c rest hc ih =>
    have heven := ih ((clean_lone hc).1 h)
    have hle := endingBackslashes_le rest
    rw [not_or] at hc
    have hrun : endingBackslashes (c :: rest) = endingBackslashes rest := by
      simp [endingBackslashes_cons, hc]
    rw [endingBackslashes_cons, if_neg]
    · exact heven
    · rw [hrun, List.length_cons]
      omega
  | case3 c rest hlast ih =>
    by_cases hc : c = '\\'
    · subst hc
      cases rest with
      | nil => exact absurd h not_clean_backslash
      | cons d rest => exact absurd rfl (hlast d rest rfl)
    · have heven := ih ((clean_single hc).1 h).2
      simpa [endingBackslashes_cons, hc] using heven
  | case4 => rfl

/-! ## How it is read -/

/-- A character that a reader of quoted text meets. -/
inductive Met where
  /-- Between quotes. -/
  | quoted (c : Char)
  /-- Outside of quotes, behind a backslash. -/
  | escaped (c : Char)
  /-- Outside of quotes. -/
  | bare (c : Char)
  deriving DecidableEq, Repr

/-- The character itself. -/
def Met.char : Met → Char
  | quoted c | escaped c | bare c => c

/--
What a reader meets in a text, and whether it ends between quotes. Between
quotes it takes every character as it is up to the closing quote; outside, a
backslash takes the next character as it is, and a quote opens.
-/
def readQuoted : Bool → List Char → List Met × Bool
  | inside, [] => ([], inside)
  | true, c :: rest =>
    if c = '\'' then readQuoted false rest
    else (.quoted c :: (readQuoted true rest).1, (readQuoted true rest).2)
  | false, '\\' :: c :: rest =>
    (.escaped c :: (readQuoted false rest).1, (readQuoted false rest).2)
  | false, c :: rest =>
    if c = '\'' then readQuoted true rest
    else (.bare c :: (readQuoted false rest).1, (readQuoted false rest).2)

/-- A text with each pair of percent signs for one; a single one stands for no text. -/
def readPercents? : List Char → Option (List Char)
  | '%' :: '%' :: rest => (readPercents? rest).map ('%' :: ·)
  | c :: rest => if c = '%' then none else (readPercents? rest).map (c :: ·)
  | [] => some []

/-- How a reader between quotes meets a character that has been written. -/
def metOf (c : Char) : List Met :=
  if c = '%' then [.quoted '%', .quoted '%']
  else if c = '\'' then [.escaped '\'']
  else [.quoted c]

theorem readQuoted_rewriteChar (c : Char) (s : List Char) :
    readQuoted true (rewriteChar c ++ s) =
      (metOf c ++ (readQuoted true s).1, (readQuoted true s).2) := by
  unfold rewriteChar metOf
  by_cases hp : c = '%'
  · simp [hp, readQuoted]
  · by_cases hq : c = '\''
    · simp [hq, readQuoted]
    · simp [hp, hq, readQuoted]

theorem readQuoted_flatMap_rewriteChar (k : List Char) :
    readQuoted true (k.flatMap rewriteChar) = (k.flatMap metOf, true) := by
  induction k with
  | nil => rfl
  | cons c k ih => rw [List.flatMap_cons, readQuoted_rewriteChar, ih, List.flatMap_cons]

theorem readPercents?_metOf_append (c : Char) (s : List Char) :
    readPercents? ((metOf c).map Met.char ++ s) = (readPercents? s).map (c :: ·) := by
  unfold metOf
  by_cases hp : c = '%'
  · simp [hp, Met.char, readPercents?]
  · by_cases hq : c = '\''
    · simp [hq, Met.char, readPercents?]
    · simp [hp, hq, Met.char, readPercents?]

theorem readPercents?_flatMap_metOf (k : List Char) :
    readPercents? ((k.flatMap metOf).map Met.char) = some k := by
  induction k with
  | nil => rfl
  | cons c k ih =>
    rw [List.flatMap_cons, List.map_append, readPercents?_metOf_append, ih, Option.map_some]

theorem mem_metOf {k : List Char} {m : Met} (h : m ∈ k.flatMap metOf) :
    (∃ c, m = .quoted c) ∨ m = .escaped '\'' := by
  obtain ⟨c, -, hm⟩ := List.mem_flatMap.1 h
  unfold metOf at hm
  split at hm
  · simp only [List.mem_cons, List.not_mem_nil, or_false, or_self] at hm
    exact .inl ⟨_, hm⟩
  · split at hm
    · exact .inr (List.mem_singleton.1 hm)
    · exact .inl ⟨_, List.mem_singleton.1 hm⟩

/-- **Rewrite targets.** What a rewrite target is written as is read, from inside of
quotes to inside of quotes, as its longest clean beginning, with nothing
outside of quotes but escaped quotes; and it is clean itself, so that it ends
in an even number of backslashes. -/
theorem rewriteTarget_read (value : String) :
    ∃ k, IsKept value.toList k ∧
      (readQuoted true (rewriteTarget value).toList).2 = true ∧
      (∀ m ∈ (readQuoted true (rewriteTarget value).toList).1,
        (∃ c, m = .quoted c) ∨ m = .escaped '\'') ∧
      readPercents? ((readQuoted true (rewriteTarget value).toList).1.map Met.char) = some k ∧
      Clean (rewriteTarget value).toList ∧
      endingBackslashes (rewriteTarget value).toList % 2 = 0 := by
  have htext : (rewriteTarget value).toList = (kept value.toList).flatMap rewriteChar := by
    rw [rewriteTarget, String.toList_ofList, rewriteChars_eq]
  have hkept := isKept_kept value.toList
  have hclean := hkept.clean.flatMap_rewriteChar
  rw [htext, readQuoted_flatMap_rewriteChar]
  exact ⟨_, hkept, rfl, fun m hm => mem_metOf hm, readPercents?_flatMap_metOf _, hclean,
    hclean.even_endingBackslashes⟩

example : rewriteTarget "/it's\\#1 50% # off" = "/it'\\''s\\#1 50%% " := by decide

end ProxyMaps.AnnotationValue
