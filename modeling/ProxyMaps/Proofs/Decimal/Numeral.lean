/-
Numerals of ASCII digits. Whatever they are read as, it is decided by their
length and then by the number that the digits write (`read_of_cutSign`). So the
numeral of an integer is read as the integer (`read_of_render?`).
-/
import Mathlib.Data.List.TakeWhile
import ProxyMaps.Decimal.Integer

namespace ProxyMaps.Decimal

/-- ASCII digits, at least one. -/
structure IsDigits (s : List Char) : Prop where
  ne_nil : s ≠ []
  isDigit : ∀ c ∈ s, c.isDigit = true

theorem isDigits_iff {s : List Char} : IsDigits s ↔ (!s.isEmpty && s.all Char.isDigit) = true := by
  rw [Bool.and_eq_true, Bool.not_eq_true', List.isEmpty_eq_false_iff, List.all_eq_true]
  exact ⟨fun h => ⟨h.ne_nil, h.isDigit⟩, fun h => ⟨h.1, h.2⟩⟩

instance : DecidablePred IsDigits := fun _ => decidable_of_iff _ isDigits_iff.symm

theorem toNat_of_isDigit {c : Char} (h : c.isDigit = true) : 0x30 ≤ c.toNat ∧ c.toNat ≤ 0x39 := by
  simpa [Char.isDigit, UInt32.le_iff_toNat_le] using h

/-! ## Numbers as digits -/

theorem isDigits_toDigits (n : Nat) : IsDigits (Nat.toDigits 10 n) :=
  ⟨Nat.toDigits_ne_nil, fun _ hc => Nat.isDigit_of_mem_toDigits (by decide) (Nat.le_refl 10) hc⟩

/-- A number has no zero in front, unless it is zero. -/
theorem head?_toDigits {n : Nat} (h : 0 < n) : (Nat.toDigits 10 n).head? ≠ some '0' := by
  induction n using Nat.strongRecOn with
  | ind n ih =>
    by_cases hlt : n < 10
    · have hdigit : ∀ d < 10, 0 < d → Nat.digitChar d ≠ '0' := by decide
      rw [Nat.toDigits_of_lt_base hlt, List.head?_singleton, ne_eq, Option.some.injEq]
      exact hdigit n hlt h
    · have hle : 10 ≤ n := Nat.le_of_not_lt hlt
      have hfront : (Nat.toDigits 10 (n / 10)).head?.isSome = true :=
        List.isSome_head?.2 Nat.toDigits_ne_nil
      rw [Nat.toDigits_of_base_le (by decide) hle, List.head?_append, Option.or_of_isSome hfront]
      exact ih (n / 10) (by omega) (by omega)

theorem isDigit_replicate (k : Nat) : ∀ c ∈ List.replicate k '0', c.isDigit = true := by
  intro c hc
  rw [List.eq_of_mem_replicate hc]
  rfl

theorem isDigit_append {s t : List Char} (hs : ∀ c ∈ s, c.isDigit = true)
    (ht : ∀ c ∈ t, c.isDigit = true) : ∀ c ∈ s ++ t, c.isDigit = true := by
  intro c hc
  exact (List.mem_append.1 hc).elim (hs c) (ht c)

/-- Zeros in front of the digits of a number are no matter. -/
theorem ofDigitChars_replicate_append (k n : Nat) :
    Nat.ofDigitChars 10 (List.replicate k '0' ++ Nat.toDigits 10 n) 0 = n := by
  rw [Nat.ofDigitChars_append, Nat.ofDigitChars_replicate_zero, Nat.mul_zero,
    Nat.ofDigitChars_ten_toDigits]

theorem foldl_eq_ofDigitChars (s : List Char) :
    s.foldl (fun n d => n * 10 + (d.toNat - 0x30)) 0 = Nat.ofDigitChars 10 s 0 := by
  rw [Nat.ofDigitChars_eq_foldl]
  simp only [Nat.mul_comm 10]
  rfl

/-! ## Digits in numerals -/

theorem Base.digit?_of_isDigit {c : Char} (h : c.isDigit = true) :
    decimal.digit? c = some (c.toNat - 0x30) := by
  have hvalue : Text.digitValue? c = some (c.toNat - 0x30) := if_pos h
  have hlt : c.toNat - 0x30 < 10 := by
    have := (toNat_of_isDigit h).2
    omega
  simp [digit?, hvalue, size, hlt]

namespace Integer

theorem isEdge_of_isDigit {c : Char} (h : c.isDigit = true) : isEdge c = false := by
  obtain ⟨hlow, hhigh⟩ := toNat_of_isDigit h
  have hblank : Text.isBlank c = false := by
    simp only [Text.isBlank, Bool.or_eq_false_iff, Bool.and_eq_false_iff, decide_eq_false_iff_not,
      beq_eq_false_iff_ne]
    omega
  rw [isEdge, hblank, Bool.false_and]

theorem inBody_of_isDigit {c : Char} (h : c.isDigit = true) : inBody .decimal c = true := by
  rw [inBody, Base.digit?_of_isDigit h]
  rfl

/-- No letter marks a numeral of base ten. -/
theorem dropMark_decimal (s : List Char) : dropMark .decimal s = s := by
  unfold dropMark
  split
  · exact if_neg Bool.false_ne_true
  · rfl

theorem ofDigits_filterMap {s : List Char} (h : ∀ c ∈ s, c.isDigit = true) (n : Nat) :
    (s.filterMap Base.decimal.digit?).foldl (fun n d => n * Base.decimal.size + d) n =
      Nat.ofDigitChars 10 s n := by
  induction s generalizing n with
  | nil => rfl
  | cons c s ih =>
    have hc := Base.digit?_of_isDigit (h c List.mem_cons_self)
    rw [List.filterMap_cons_some hc, List.foldl_cons, Nat.ofDigitChars_cons,
      ih (fun d hd => h d (List.mem_cons_of_mem c hd)), Nat.mul_comm]
    rfl

/-- What a text is when its sign has been cut off. -/
theorem cutSign_cases {s digits : List Char} {negative : Bool}
    (h : cutSign s = (negative, digits)) :
    (s = '-' :: digits ∧ negative = true) ∨ (s = '+' :: digits ∧ negative = false) ∨
      (s = digits ∧ negative = false) := by
  unfold cutSign at h
  split at h
  · cases h
    exact .inl ⟨rfl, rfl⟩
  · cases h
    exact .inr (.inl ⟨rfl, rfl⟩)
  · cases h
    exact .inr (.inr ⟨rfl, rfl⟩)

theorem cutSign_of_isDigits {digits : List Char} (hd : IsDigits digits) :
    cutSign digits = (false, digits) := by
  unfold cutSign
  split
  · exact absurd (hd.isDigit _ List.mem_cons_self) (by decide)
  · exact absurd (hd.isDigit _ List.mem_cons_self) (by decide)
  · rfl

theorem dropWhile_isEdge {s digits : List Char} {negative : Bool}
    (hcut : cutSign s = (negative, digits)) (hd : IsDigits digits) : s.dropWhile isEdge = s := by
  rcases cutSign_cases hcut with ⟨rfl, -⟩ | ⟨rfl, -⟩ | ⟨rfl, -⟩
  · rfl
  · rfl
  · cases s with
    | nil => rfl
    | cons c s =>
      exact List.dropWhile_cons_of_neg
        (Bool.not_eq_true _ ▸ isEdge_of_isDigit (hd.isDigit c List.mem_cons_self))

/-- Of a sign and ASCII digits the number is read that they write, if they are not too many. -/
theorem read_of_cutSign {s digits : List Char} {negative : Bool}
    (hcut : cutSign s = (negative, digits)) (hd : IsDigits digits) :
    read .decimal s =
      if maxDigits < digits.length then .error (.tooLong digits.length)
      else .ok (if negative then -(Nat.ofDigitChars 10 digits 0 : Int)
        else Nat.ofDigitChars 10 digits 0) := by
  have hbody : ∀ c ∈ digits, inBody .decimal c = true := fun c hc =>
    inBody_of_isDigit (hd.isDigit c hc)
  have htake : digits.takeWhile (inBody .decimal) = digits := List.takeWhile_eq_self_iff.2 hbody
  have hdrop : digits.dropWhile (inBody .decimal) = [] := List.dropWhile_eq_nil_iff.2 hbody
  have hsplit : List.splitOn '_' digits = [digits] :=
    List.splitOn_eq_singleton fun h => absurd (hd.isDigit _ h) (by decide)
  have hempty : [digits].any List.isEmpty = false := by simpa using hd.ne_nil
  have hvalue : ofDigits Base.decimal.size (digits.filterMap Base.decimal.digit?) =
      Nat.ofDigitChars 10 digits 0 := ofDigits_filterMap hd.isDigit 0
  simp only [read, dropWhile_isEdge hcut hd, hcut, dropMark_decimal, htake, hdrop, hsplit, hempty,
    List.flatten_singleton, hvalue]
  simp

theorem toList_of_render? {n : Int} {s : String} (h : render? n = some s) :
    s.toList = (if n < 0 then ['-'] else []) ++ Nat.toDigits 10 n.natAbs ∧
      (Nat.toDigits 10 n.natAbs).length ≤ maxDigits := by
  have htext : toString n.natAbs = String.ofList (Nat.toDigits 10 n.natAbs) :=
    Nat.toString_eq_ofList_toDigits
  simp only [render?, htext, String.length_ofList] at h
  split at h
  · cases h
  next hlength =>
    cases h
    refine ⟨?_, Nat.le_of_not_lt hlength⟩
    split
    · rw [String.toList_append, String.toList_ofList, String.toList_ofList]
    · rw [String.toList_ofList, List.nil_append]

/-- An integer is read from its numeral, if it has one. -/
theorem read_of_render? {n : Int} {s : String} (h : render? n = some s) :
    read .decimal s.toList = .ok n := by
  obtain ⟨htext, hlength⟩ := toList_of_render? h
  have hdigits := isDigits_toDigits n.natAbs
  have hcut : cutSign s.toList = (decide (n < 0), Nat.toDigits 10 n.natAbs) := by
    rw [htext]
    split
    next hneg =>
      rw [decide_eq_true hneg]
      rfl
    next hneg =>
      rw [decide_eq_false hneg]
      exact cutSign_of_isDigits hdigits
  rw [read_of_cutSign hcut hdigits, if_neg (Nat.not_lt.2 hlength), Nat.ofDigitChars_ten_toDigits]
  congr 1
  simp only [decide_eq_true_eq]
  split <;> omega

end Integer

end ProxyMaps.Decimal
