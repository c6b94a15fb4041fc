/-
Strings and integers in JSON text, written and read. Every character of a string
is found again behind its escape (`string?_string`), and the digits of an
integer as far as they go (`number?_digits`).
-/
import Mathlib.Data.List.TakeWhile
import ProxyMaps.Json.Reader
import ProxyMaps.Json.Writer
import ProxyMaps.Proofs.Decimal.Numeral

namespace ProxyMaps.Json

/-! ## Strings -/

section Strings

variable {c : Char} {rest : List Char}

theorem hex4?_hex : ∀ n < 0x20, Reader.hex4? (Text.Quoted.hex 4 n) = some (n, []) := by
  decide

theorem hex4?_append {ds : List Char} {n : Nat} (h : Reader.hex4? ds = some (n, [])) :
    Reader.hex4? (ds ++ rest) = some (n, rest) := by
  unfold Reader.hex4? at h
  split at h
  next a b c d more =>
    simp only [Option.bind_eq_bind, Option.bind_eq_some_iff] at h
    obtain ⟨x, hx, y, hy, z, hz, w, hw, h⟩ := h
    cases h
    simp [Reader.hex4?, hx, hy, hz, hw]
  · cases h

/-- A control character is read behind its number. -/
theorem numbered?_hex (h : c.toNat < 0x20) :
    Reader.numbered? (Text.Quoted.hex 4 c.toNat ++ rest) = some (c, rest) := by
  -- it is no surrogate, so nothing has to follow
  have hlow : ¬ 0xd800 ≤ c.toNat := by omega
  have hmiddle : ¬ 0xdc00 ≤ c.toNat := by omega
  simp [Reader.numbered?, hex4?_append (hex4?_hex _ h), hlow, hmiddle]

/-- A character is written with a backslash that its escape follows, or stands for itself. -/
theorem escape_cases (c : Char) :
    (∃ e, Writer.escape c = '\\' :: e ∧ ∀ rest, Reader.escape? (e ++ rest) = some (c, rest)) ∨
      (Writer.escape c = [c] ∧ c ≠ '"' ∧ c ≠ '\\' ∧ ¬ c.toNat < 0x20) := by
  unfold Writer.escape
  split
  · next h => subst h; exact .inl ⟨['"'], rfl, fun _ => rfl⟩
  rename_i hquote
  split
  · next h => subst h; exact .inl ⟨['\\'], rfl, fun _ => rfl⟩
  rename_i hslash
  split
  · next h => subst h; exact .inl ⟨['b'], rfl, fun _ => rfl⟩
  split
  · next h => subst h; exact .inl ⟨['f'], rfl, fun _ => rfl⟩
  split
  · next h => subst h; exact .inl ⟨['n'], rfl, fun _ => rfl⟩
  split
  · next h => subst h; exact .inl ⟨['r'], rfl, fun _ => rfl⟩
  split
  · next h => subst h; exact .inl ⟨['t'], rfl, fun _ => rfl⟩
  split
  · next h => exact .inl ⟨'u' :: Text.Quoted.hex 4 c.toNat, rfl, fun _ => numbered?_hex h⟩
  · next h => exact .inr ⟨rfl, hquote, hslash, h⟩

theorem string?_escape (fuel : Nat) (c : Char) (rest : List Char) :
    Reader.string? (fuel + 1) (Writer.escape c ++ rest) =
      (Reader.string? fuel rest).map fun p => (c :: p.1, p.2) := by
  rcases escape_cases c with ⟨e, he, hread⟩ | ⟨hself, hquote, hslash, hcontrol⟩
  · have hquote : '\\' ≠ '"' := by decide
    simp only [he, List.cons_append, Reader.string?, if_neg hquote, if_true, hread]
    exact Option.map_eq_bind.symm
  · simp only [hself, List.singleton_append, Reader.string?, if_neg hquote, if_neg hslash,
      if_neg hcontrol]
    exact Option.map_eq_bind.symm

theorem string?_flatMap_escape {fuel : Nat} {s : List Char} (h : s.length < fuel)
    (rest : List Char) :
    Reader.string? fuel (s.flatMap Writer.escape ++ '"' :: rest) = some (s, rest) := by
  induction s generalizing fuel with
  | nil =>
    cases fuel with
    | zero => cases h
    | succ fuel => rfl
  | cons c s ih =>
    cases fuel with
    | zero => cases h
    | succ fuel =>
      rw [List.flatMap_cons, List.append_assoc, string?_escape,
        ih (Nat.lt_of_succ_lt_succ h)]
      rfl

theorem length_le_flatMap_escape (s : List Char) : s.length ≤ (s.flatMap Writer.escape).length := by
  induction s with
  | nil => exact Nat.le_refl _
  | cons c s ih =>
    have hc : 0 < (Writer.escape c).length := by
      rcases escape_cases c with ⟨e, he, -⟩ | ⟨hself, -⟩
      · rw [he]
        exact Nat.succ_pos _
      · rw [hself]
        exact Nat.one_pos
    rw [List.flatMap_cons, List.length_append, List.length_cons]
    omega

/-- What stands in the quotes of a string is read behind the first of them. -/
theorem string?_string (s : String) (rest : List Char) :
    ∃ inner, Writer.string s = '"' :: inner ∧
      Reader.string? ((inner ++ rest).length + 1) (inner ++ rest) = some (s.toList, rest) := by
  refine ⟨s.toList.flatMap Writer.escape ++ ['"'], rfl, ?_⟩
  have hlength := length_le_flatMap_escape s.toList
  rw [List.append_assoc, List.singleton_append]
  refine string?_flatMap_escape ?_ rest
  simp only [List.length_append, List.length_cons]
  omega

end Strings

/-! ## Integers -/

/-- What stands behind a document: nothing, or what separates items or closes around them. -/
inductive Ended : List Char → Prop where
  | nil : Ended []
  | comma (rest : List Char) : Ended (',' :: rest)
  | bracket (rest : List Char) : Ended (']' :: rest)
  | brace (rest : List Char) : Ended ('\x7d' :: rest)

section Integers

variable {rest : List Char}

theorem Ended.takeWhile_isDigit (h : Ended rest) : rest.takeWhile Char.isDigit = [] := by
  cases h <;> rfl

theorem Ended.dropWhile_isDigit (h : Ended rest) : rest.dropWhile Char.isDigit = rest := by
  cases h <;> rfl

theorem digits?_append {ds : List Char} (hne : ds ≠ []) (hds : ∀ c ∈ ds, c.isDigit = true)
    (h : Ended rest) : Reader.digits? (ds ++ rest) = some (ds, rest) := by
  have htake : (ds ++ rest).takeWhile Char.isDigit = ds := by
    rw [List.takeWhile_append_of_pos hds, h.takeWhile_isDigit, List.append_nil]
  have hdrop : (ds ++ rest).dropWhile Char.isDigit = rest := by
    rw [List.dropWhile_append_of_pos hds, h.dropWhile_isDigit]
  simp [Reader.digits?, Reader.digits, htake, hdrop, hne]

theorem ofDigits_toDigits (n : Nat) : Reader.ofDigits (Nat.toDigits 10 n) = n := by
  rw [Reader.ofDigits, Decimal.foldl_eq_ofDigitChars, Nat.ofDigitChars_ten_toDigits]

theorem number?_digits (negative : Bool) (n : Nat) (h : Ended rest) :
    Reader.number? negative (Nat.toDigits 10 n ++ rest) =
      some (.int (if negative then -n else n), rest) := by
  obtain ⟨hne, hisDigit⟩ := Decimal.isDigits_toDigits n
  have hdigits := digits?_append hne hisDigit h
  have hzero : ¬ ((Nat.toDigits 10 n).head? = some '0' ∧ 1 < (Nat.toDigits 10 n).length) := by
    rintro ⟨hhead, hlength⟩
    rcases Nat.eq_zero_or_pos n with rfl | hpos
    · exact absurd hlength (by decide)
    · exact Decimal.head?_toDigits hpos hhead
  have hfraction : Reader.fraction? rest = some ([], rest) := by cases h <;> rfl
  have hexponent : Reader.exponent? rest = some (none, rest) := by cases h <;> rfl
  simp only [Reader.number?, hdigits, Option.bind_eq_bind, Option.bind_some, hfraction, hexponent,
    ofDigits_toDigits, Bool.and_eq_true, decide_eq_true_eq, if_neg hzero]
  rfl

end Integers

end ProxyMaps.Json
