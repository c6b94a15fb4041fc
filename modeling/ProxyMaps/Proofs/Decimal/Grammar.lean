/-
Which texts are read as decimal integers: the texts of `Numeral`s with not too
many digits, each as the value of its numeral (`read_decimal_eq_ok_iff`).
-/
import Mathlib.Data.List.TakeWhile
import ProxyMaps.Proofs.Decimal.Numeral
import ProxyMaps.Proofs.Lists

namespace ProxyMaps

theorem Text.lt_ten_of_digitValue? {c : Char} {d : Nat} (h : digitValue? c = some d) : d < 10 := by
  unfold digitValue? at h
  split at h
  next hc =>
    have hbound := (Decimal.toNat_of_isDigit hc).2
    simp only [Option.some.injEq] at h
    omega
  · split at h
    · cases h
    · obtain ⟨z, hz, rfl⟩ := Option.map_eq_some_iff.1 h
      have hnear := List.find?_some hz
      simp only [Bool.and_eq_true, decide_eq_true_eq] at hnear
      omega

/-- No digit of any script is white space. -/
theorem Text.isBlank_of_isDecimalDigit {c : Char} (h : isDecimalDigit c = true) :
    isBlank c = false := by
  have hzeros : ∀ z ∈ zeros, 0x20 < z ∧ z + 9 < 0x85 ∨ 0xa0 < z ∧ z + 9 < 0x1680 ∨
      0x1680 < z ∧ z + 9 < 0x2000 ∨ 0x3000 < z := by
    decide
  obtain ⟨z, hz, hlow, hhigh⟩ : ∃ z ∈ zeros, z ≤ c.toNat ∧ c.toNat ≤ z + 9 := by
    unfold isDecimalDigit digitValue? at h
    split at h
    next hc => exact ⟨0x30, by decide, Decimal.toNat_of_isDigit hc⟩
    · split at h
      · cases h
      · rw [Option.isSome_map] at h
        obtain ⟨z, hz⟩ := Option.isSome_iff_exists.1 h
        have hnear := List.find?_some hz
        simp only [Bool.and_eq_true, decide_eq_true_eq] at hnear
        exact ⟨z, List.mem_of_find?_eq_some hz, hnear⟩
  have hplace := hzeros z hz
  simp only [isBlank, Bool.or_eq_false_iff, Bool.and_eq_false_iff, decide_eq_false_iff_not,
    beq_eq_false_iff_ne]
  omega

namespace Decimal

/-- The digits of base ten are those of all scripts. -/
theorem Base.digit?_decimal : decimal.digit? = Text.digitValue? := by
  funext c
  unfold digit?
  cases h : Text.digitValue? c with
  | some d => simp [size, Text.lt_ten_of_digitValue? h]
  | none =>
    -- an ASCII letter is a digit of larger bases only
    have hdigit : c.isDigit = false := by
      cases hc : c.isDigit with
      | false => rfl
      | true => simp [Text.digitValue?, hc] at h
    have hlarge : ∀ n : Nat, ¬ n + 10 < 10 := by omega
    simp only [Option.none_or, Text.asciiDigitValue?, hdigit, Bool.false_eq_true, if_false]
    split
    · simp [size, hlarge]
    · split <;> simp [size, hlarge]

/-- A decimal integer as it may be written: white space, a sign or none, digits
with single underscores between groups of them, and white space. -/
structure Numeral where
  before : List Char
  sign : List Char
  groups : List (List Char)
  after : List Char
  isEdge_before : ∀ c ∈ before, Integer.isEdge c = true
  sign_mem : sign ∈ [[], ['+'], ['-']]
  groups_ne_nil : groups ≠ []
  nil_notMem_groups : [] ∉ groups
  isDigit_of_mem : ∀ g ∈ groups, ∀ c ∈ g, Text.isDecimalDigit c = true
  isEdge_after : ∀ c ∈ after, Integer.isEdge c = true

namespace Numeral

/-- The digits of a numeral with their underscores. -/
def body (x : Numeral) : List Char := ['_'].intercalate x.groups

/-- A numeral as text. -/
def text (x : Numeral) : List Char := x.before ++ (x.sign ++ (x.body ++ x.after))

/-- The digits of a numeral. -/
def digits (x : Numeral) : List Char := x.groups.flatten

/-- The integer that a numeral writes. -/
def value (x : Numeral) : Int :=
  let n := Integer.ofDigits 10 (x.digits.filterMap Text.digitValue?)
  if x.sign = ['-'] then -n else n

end Numeral

namespace Integer

theorem inBody_decimal (c : Char) : inBody .decimal c = (Text.isDecimalDigit c || c == '_') := by
  rw [inBody, Base.digit?_decimal]
  rfl

theorem isEdge_of_isDecimalDigit {c : Char} (h : Text.isDecimalDigit c = true) :
    isEdge c = false := by
  rw [isEdge, Text.isBlank_of_isDecimalDigit h, Bool.false_and]

/-! ## What is read -/

theorem cutSign_append {sign t : List Char} (hsign : sign ∈ [[], ['+'], ['-']])
    (ht : ∀ c ∈ t.head?, c ≠ '-' ∧ c ≠ '+') :
    cutSign (sign ++ t) = (decide (sign = ['-']), t) := by
  simp only [List.mem_cons, List.not_mem_nil, or_false] at hsign
  rcases hsign with rfl | rfl | rfl
  · rw [List.nil_append]
    unfold cutSign
    split
    · simp at ht
    · simp at ht
    · rfl
  · rfl
  · rfl

theorem exists_sign (s : List Char) :
    ∃ sign ∈ [[], ['+'], ['-']], s = sign ++ (cutSign s).2 ∧
      (cutSign s).1 = decide (sign = ['-']) := by
  rcases cutSign_cases (rfl : cutSign s = ((cutSign s).1, (cutSign s).2)) with
    ⟨h, hsign⟩ | ⟨h, hsign⟩ | ⟨h, hsign⟩
  · exact ⟨['-'], by simp, h, hsign⟩
  · exact ⟨['+'], by simp, h, hsign⟩
  · exact ⟨[], by simp, h, hsign⟩

/-- A text that is read is cut into the parts of a numeral. -/
theorem exists_numeral_of_read {s : List Char} {n : Int} (h : read .decimal s = .ok n) :
    ∃ x : Numeral, x.text = s ∧ x.value = n ∧ x.digits.length ≤ maxDigits := by
  obtain ⟨sign, hsign, hcut, hnegative⟩ := exists_sign (s.dropWhile isEdge)
  simp only [read, dropMark_decimal, hnegative] at h
  generalize (cutSign (s.dropWhile isEdge)).2 = t at hcut h
  simp only [Base.digit?_decimal, decide_true, Bool.true_and, decide_eq_true_eq, Base.size] at h
  split at h
  · cases h
  next hfull =>
    split at h
    · cases h
    next hlength =>
      split at h
      · cases h
      next hafter =>
        have hdigit : ∀ g ∈ List.splitOn '_' (t.takeWhile (inBody .decimal)), ∀ c ∈ g,
            Text.isDecimalDigit c = true := by
          intro g hg c hc
          have hbody := List.mem_takeWhile_imp (List.mem_of_mem_splitOn hg hc)
          have hline : c ≠ '_' := fun h => List.not_mem_of_mem_splitOn hg (h ▸ hc)
          simpa [inBody_decimal, hline] using hbody
        refine ⟨⟨s.takeWhile isEdge, sign, List.splitOn '_' (t.takeWhile (inBody .decimal)),
          t.dropWhile (inBody .decimal), fun c => List.mem_takeWhile_imp, hsign,
          List.splitOn_ne_nil _ _, by simpa using hfull, hdigit, by simpa using hafter⟩, ?_, ?_,
          Nat.le_of_not_lt hlength⟩
        · rw [Numeral.text, Numeral.body, List.intercalate_splitOn,
            List.takeWhile_append_dropWhile, ← hcut, List.takeWhile_append_dropWhile]
        · exact Except.ok.inj h

section

variable (x : Numeral)

theorem exists_body_eq : ∃ c rest, x.body = c :: rest ∧ Text.isDecimalDigit c = true := by
  obtain ⟨before, sign, groups, after, -, -, hne, hfull, hdigit, -⟩ := x
  cases groups with
  | nil => exact absurd rfl hne
  | cons g gs =>
    cases g with
    | nil => exact absurd List.mem_cons_self hfull
    | cons c g =>
      have hc : Text.isDecimalDigit c = true := hdigit _ List.mem_cons_self c List.mem_cons_self
      cases gs with
      | nil => exact ⟨c, g, by simp [Numeral.body], hc⟩
      | cons g' gs => exact ⟨c, _, by rw [Numeral.body, List.intercalate_cons_cons]; rfl, hc⟩

theorem inBody_of_mem_body : ∀ c ∈ x.body, inBody .decimal c = true := by
  intro c hc
  rw [inBody_decimal]
  rcases List.eq_or_mem_of_mem_intercalate hc with rfl | ⟨g, hg, hc⟩
  · rfl
  · rw [x.isDigit_of_mem g hg c hc, Bool.true_or]

theorem not_inBody_of_isEdge {c : Char} (h : isEdge c = true) : inBody .decimal c = false := by
  rw [inBody_decimal, Bool.or_eq_false_iff]
  constructor
  · cases hc : Text.isDecimalDigit c with
    | false => rfl
    | true => simp [isEdge_of_isDecimalDigit hc] at h
  · rw [beq_eq_false_iff_ne]
    rintro rfl
    exact absurd h (by decide)

theorem splitOn_body : List.splitOn '_' x.body = x.groups := by
  refine List.splitOn_intercalate '_' (fun g hg hline => ?_) x.groups_ne_nil
  exact absurd (x.isDigit_of_mem g hg _ hline) (by decide)

/-- The sign of a numeral is cut off behind its white space. -/
theorem cutSign_text :
    cutSign (x.text.dropWhile isEdge) = (decide (x.sign = ['-']), x.body ++ x.after) := by
  obtain ⟨c, rest, hbody, hc⟩ := exists_body_eq x
  have hhead : (x.body ++ x.after).head? = some c := by simp [hbody]
  have hedge : ∀ d ∈ (x.sign ++ (x.body ++ x.after)).head?, isEdge d = false := by
    have hsign := x.sign_mem
    simp only [List.mem_cons, List.not_mem_nil, or_false] at hsign
    rcases hsign with hs | hs | hs
    · simp [hs, hhead, isEdge_of_isDecimalDigit hc]
    · simp [hs, show isEdge '+' = false by decide]
    · simp [hs, show isEdge '-' = false by decide]
  rw [Numeral.text, List.dropWhile_append_stop x.isEdge_before hedge]
  refine cutSign_append x.sign_mem ?_
  rw [hhead]
  intro d hd
  cases hd
  constructor <;> (rintro rfl; exact absurd hc (by decide))

/-- A numeral is read as its value, if it has not too many digits. -/
theorem read_text (h : x.digits.length ≤ maxDigits) : read .decimal x.text = .ok x.value := by
  have hstop : ∀ d ∈ x.after.head?, inBody .decimal d = false := fun d hd =>
    not_inBody_of_isEdge (x.isEdge_after d (List.mem_of_mem_head? hd))
  have hfull : x.groups.any List.isEmpty = false := by
    rw [← Bool.not_eq_true]
    simpa using x.nil_notMem_groups
  have hafter : (x.after.any fun c => !isEdge c) = false := by simpa using x.isEdge_after
  have hlength : ¬ maxDigits < x.groups.flatten.length := Nat.not_lt.2 h
  simp only [read, cutSign_text, dropMark_decimal,
    List.takeWhile_append_stop (inBody_of_mem_body x) hstop,
    List.dropWhile_append_stop (inBody_of_mem_body x) hstop, splitOn_body, hfull, hafter,
    Base.digit?_decimal, Base.size]
  simp only [decide_true, Bool.true_and, decide_eq_true_eq, Bool.false_eq_true, if_false,
    if_neg hlength]
  rfl

end

/-- **Decimal integers.** What is read are the numerals without too many digits. -/
theorem read_decimal_eq_ok_iff {s : List Char} {n : Int} :
    read .decimal s = .ok n ↔
      ∃ x : Numeral, x.text = s ∧ x.value = n ∧ x.digits.length ≤ maxDigits := by
  constructor
  · exact exists_numeral_of_read
  · intro h
    obtain ⟨x, rfl, rfl, hlength⟩ := h
    exact read_text x hlength

end Integer

end Decimal

end ProxyMaps
