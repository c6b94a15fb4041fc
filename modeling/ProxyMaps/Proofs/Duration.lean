/-
Time values: which texts are one (`read_of_writes`, `read_of_not_writes`), and
the microseconds that they are converted to.

The conversion leads through floating point numbers. Below 2 to the power of 53
nanoseconds all its steps are exact (`microsecondsOf_of_lt`). For longer times
that are read the result is near the exact one at least, so a limit far below
is not crossed by the rounding (`lt_microsecondsOf_iff`), and the number that
is rounded is finite (`floating_finite`).
-/
import ProxyMaps.Duration
import ProxyMaps.Proofs.Decimal.Numeral
import ProxyMaps.Proofs.Decimal.Rounding

namespace ProxyMaps

open Decimal (Binary64)
open Decimal.Binary64 (Near whole)

namespace TimeUnit

variable (u : TimeUnit)

theorem nanoseconds_pos : 0 < u.nanoseconds := by cases u <;> decide

theorem nanoseconds_lt : u.nanoseconds < 2 ^ 53 := by cases u <;> decide

theorem thousand_dvd_nanoseconds : 1000 ∣ u.nanoseconds := by cases u <;> decide

/-- The name of a unit. -/
def name : TimeUnit → String
  | microsecond => "us"
  | millisecond => "ms"
  | second => "s"
  | minute => "m"
  | hour => "h"
  | day => "d"

variable {u}

theorem ofSuffix?_eq_some_iff {s : List Char} :
    ofSuffix? s = some u ↔ s = u.name.toList ∨ s = [] ∧ u = millisecond := by
  constructor
  · intro h
    unfold ofSuffix? at h
    split at h <;> cases h <;> decide
  · rintro (rfl | ⟨rfl, rfl⟩)
    · cases u <;> rfl
    · rfl

/-- No digit is at the start of what names a unit. -/
theorem takeWhile_of_ofSuffix? {s : List Char} (h : ofSuffix? s = some u) :
    s.takeWhile Char.isDigit = [] := by
  rcases ofSuffix?_eq_some_iff.1 h with rfl | ⟨rfl, rfl⟩
  · cases u <;> decide
  · rfl

end TimeUnit

namespace Duration

/-! ## Nanoseconds to microseconds -/

/-- A number of units of some nanoseconds in microseconds, as a floating point number. -/
def quotient (count nanoseconds : Nat) : Binary64 :=
  ((Binary64.ofInt count).mul (.ofInt nanoseconds)).div (.ofInt 1000)

theorem ofInt_thousand : Binary64.ofInt 1000 = whole 1000 :=
  Binary64.ofInt_whole (n := 1000) (by decide)

theorem quotient_of_lt {count ns : Nat} (hns : ns < 2 ^ 53) (hpos : 0 < ns) (hdvd : 1000 ∣ ns)
    (h : count * ns < 2 ^ 53) : quotient count ns = whole (count * ns / 1000) := by
  have hcount : count < 2 ^ 53 := Nat.lt_of_le_of_lt (Nat.le_mul_of_pos_right count hpos) h
  have hexact : count * ns = count * ns / 1000 * 1000 :=
    (Nat.div_mul_cancel (Nat.dvd_trans hdvd (Nat.dvd_mul_left ns count))).symm
  rw [quotient, Binary64.ofInt_whole hcount, Binary64.ofInt_whole hns, Binary64.whole_mul h,
    ofInt_thousand, hexact, Binary64.whole_div (by omega) (by decide), ← hexact]

/-- Three roundings move a time by less than its half. -/
theorem quotient_near {count ns : Nat} (hns : ns < 2 ^ 53) (hpos : 0 < ns) (hcount : 0 < count)
    (h : count * ns < 2 ^ 63) :
    ∃ n, quotient count ns = .finite false n ∧
      7 * (count * ns * Binary64.unit) ≤ 10000 * n ∧
        10000 * n ≤ 14 * (count * ns * Binary64.unit) := by
  have hunit := Binary64.two_pow_le_unit
  have hlimit : 8 * (count * ns * Binary64.unit) < Binary64.limit := by
    rw [← Nat.mul_assoc]
    exact Binary64.mul_unit_lt_limit (by omega)
  have hcountLe : count ≤ count * ns := Nat.le_mul_of_pos_right count hpos
  have hexactLe : Binary64.unit ≤ count * ns * Binary64.unit :=
    Nat.le_mul_of_pos_left _ (Nat.mul_pos hcount hpos)
  -- each step starts near the exact time in units, so it ends near it: no step gets tiny or huge
  obtain ⟨x, hx, hxnear⟩ := Binary64.ofInt_near hcount (Binary64.mul_unit_lt_limit (by omega))
  obtain ⟨hxlow, hxhigh⟩ : Near (x * ns) (count * ns * Binary64.unit) 1 := by
    rw [Nat.mul_right_comm]
    exact hxnear.mul_right ns
  obtain ⟨y, hy, hylow, hyhigh⟩ := Binary64.mul_whole_near (m := x) (n := ns) (by omega) (by omega)
  obtain ⟨z, hz, hzlow, hzhigh⟩ := Binary64.div_whole_near (m := y) (n := 1000) (by decide)
    (by omega) (by omega)
  refine ⟨z, ?_, by omega, by omega⟩
  rw [quotient, hx, Binary64.ofInt_whole hns, hy, ofInt_thousand, hz]

/-- The microseconds of a time as a floating point number; days are counted in hours. -/
def floating (count : Nat) (unit : TimeUnit) : Binary64 :=
  if unit = .day then quotient (count * 24) TimeUnit.hour.nanoseconds
  else quotient count unit.nanoseconds

theorem microsecondsOf_eq (count : Nat) (unit : TimeUnit) :
    microsecondsOf count unit = toNearest (floating count unit) := by
  by_cases h : unit = .day
  · simp only [microsecondsOf, floating, quotient, if_pos h]
  · simp only [microsecondsOf, floating, quotient, if_neg h]

section

variable {count : Nat} {unit : TimeUnit}

/-- Counting days in hours changes nothing about the nanoseconds. -/
theorem floating_eq_quotient (count : Nat) (unit : TimeUnit) :
    ∃ (c : Nat) (u : TimeUnit), floating count unit = quotient c u.nanoseconds ∧
      c * u.nanoseconds = count * unit.nanoseconds := by
  by_cases h : unit = .day
  · subst h
    exact ⟨count * 24, .hour, if_pos rfl, Nat.mul_assoc count 24 _⟩
  · exact ⟨count, unit, if_neg h, rfl⟩

theorem floating_of_lt (h : count * unit.nanoseconds < 2 ^ 53) :
    floating count unit = whole (count * unit.nanoseconds / 1000) := by
  obtain ⟨c, u, hfloating, hns⟩ := floating_eq_quotient count unit
  rw [← hns] at h ⊢
  rw [hfloating]
  exact quotient_of_lt u.nanoseconds_lt u.nanoseconds_pos u.thousand_dvd_nanoseconds h

theorem floating_near (hcount : 0 < count) (h : count * unit.nanoseconds < 2 ^ 63) :
    ∃ n, floating count unit = .finite false n ∧
      7 * (count * unit.nanoseconds * Binary64.unit) ≤ 10000 * n ∧
        10000 * n ≤ 14 * (count * unit.nanoseconds * Binary64.unit) := by
  obtain ⟨c, u, hfloating, hns⟩ := floating_eq_quotient count unit
  have hc : 0 < c := by
    have hpos := Nat.mul_pos hcount unit.nanoseconds_pos
    rw [← hns] at hpos
    exact Nat.pos_of_mul_pos_right hpos
  rw [← hns] at h ⊢
  rw [hfloating]
  exact quotient_near u.nanoseconds_lt u.nanoseconds_pos hc h

/-! ## Whole microseconds -/

theorem toNearest_whole (n : Nat) : toNearest (whole n) = n := by
  rw [whole, toNearest, Decimal.roundDiv_mul_self n Binary64.unit_pos]

theorem microsecondsOf_of_lt (h : count * unit.nanoseconds < 2 ^ 53) :
    microsecondsOf count unit = count * unit.nanoseconds / 1000 := by
  rw [microsecondsOf_eq, floating_of_lt h, toNearest_whole]

theorem microsecondsOf_low (hcount : 0 < count) (h : count * unit.nanoseconds < 2 ^ 63) :
    14 * (count * unit.nanoseconds) ≤ 10000 * (2 * microsecondsOf count unit + 1) := by
  obtain ⟨n, hn, hlow, -⟩ := floating_near hcount h
  obtain ⟨hround, -⟩ := Decimal.roundDiv_near n Binary64.unit_pos
  rw [microsecondsOf_eq, hn, toNearest]
  refine Nat.le_of_mul_le_mul_right ?_ Binary64.unit_pos
  calc 14 * (count * unit.nanoseconds) * Binary64.unit
      = 2 * (7 * (count * unit.nanoseconds * Binary64.unit)) := by ring
    _ ≤ 10000 * (2 * (Decimal.roundDiv n Binary64.unit * Binary64.unit) + Binary64.unit) := by
      omega
    _ = 10000 * (2 * Decimal.roundDiv n Binary64.unit + 1) * Binary64.unit := by ring

/-- Rounding moves no time across a limit of less than 50 days. -/
theorem lt_microsecondsOf_iff {limit : Nat} (hlimit : limit < 2 ^ 42)
    (h : count * unit.nanoseconds < 2 ^ 63) :
    limit < microsecondsOf count unit ↔ limit * 1000 < count * unit.nanoseconds := by
  have hdvd : 1000 ∣ count * unit.nanoseconds :=
    Nat.dvd_trans unit.thousand_dvd_nanoseconds (Nat.dvd_mul_left _ count)
  by_cases hexact : count * unit.nanoseconds < 2 ^ 53
  · rw [microsecondsOf_of_lt hexact]
    omega
  -- a time that may be rounded is so far above the limit that any rounding of it is, too
  · have hcount : 0 < count := Nat.pos_of_ne_zero fun h0 => hexact (by simp [h0])
    have hlow := microsecondsOf_low hcount h
    omega

/-- Spans of time are below a thousand million days, in microseconds. -/
def spanLimit : Nat := 1000000000 * (24 * 60 * 60 * 1000000)

theorem floating_finite (h : count * unit.nanoseconds < 2 ^ 63) :
    ∃ n, floating count unit = .finite false n ∧ n < spanLimit * Binary64.unit := by
  rcases Nat.eq_zero_or_pos count with rfl | hcount
  · refine ⟨0, ?_, Nat.mul_pos (by decide) Binary64.unit_pos⟩
    rw [floating_of_lt (by simp), Nat.zero_mul, Nat.zero_div, whole, Nat.zero_mul]
  · obtain ⟨n, hn, -, hhigh⟩ := floating_near hcount h
    have hlt := Nat.mul_lt_mul_of_pos_right h Binary64.unit_pos
    exact ⟨n, hn, by unfold spanLimit; omega⟩

end

/-! ## Texts -/

/-- A text of ASCII digits and the name of a unit, which may be left out for milliseconds. -/
structure Writes (value : String) (digits : List Char) (unit : TimeUnit) : Prop where
  isDigits : Decimal.IsDigits digits
  text : value.toList = digits ++ unit.name.toList ∨
    value.toList = digits ∧ unit = .millisecond

/-- The exact time that digits and a unit write, in nanoseconds. -/
def exactNanoseconds (digits : List Char) (unit : TimeUnit) : Nat :=
  Nat.ofDigitChars 10 digits 0 * unit.nanoseconds

section

variable {value : String} {digits : List Char} {unit : TimeUnit}

theorem writes_iff : Writes value digits unit ↔
    Decimal.IsDigits digits ∧
      ∃ suffix, value.toList = digits ++ suffix ∧ TimeUnit.ofSuffix? suffix = some unit := by
  constructor
  · rintro ⟨hd, htext | ⟨htext, rfl⟩⟩
    · exact ⟨hd, _, htext, TimeUnit.ofSuffix?_eq_some_iff.2 (.inl rfl)⟩
    · exact ⟨hd, [], by rw [htext, List.append_nil], rfl⟩
  · rintro ⟨hd, suffix, htext, hsuffix⟩
    rcases TimeUnit.ofSuffix?_eq_some_iff.1 hsuffix with rfl | ⟨rfl, rfl⟩
    · exact ⟨hd, .inl htext⟩
    · exact ⟨hd, .inr ⟨by rw [htext, List.append_nil], rfl⟩⟩

theorem cut?_eq_some_iff : cut? value = some (digits, unit) ↔ Writes value digits unit := by
  rw [writes_iff]
  constructor
  · intro h
    unfold cut? at h
    dsimp only at h
    split at h
    · cases h
    next hne =>
      obtain ⟨u, hu, heq⟩ := Option.map_eq_some_iff.1 h
      cases heq
      refine ⟨⟨by simpa using hne, fun c hc => ?_⟩, _, List.takeWhile_append_dropWhile.symm, hu⟩
      exact List.mem_takeWhile_imp hc
  · rintro ⟨hd, suffix, htext, hsuffix⟩
    have hstart := TimeUnit.takeWhile_of_ofSuffix? hsuffix
    have htake : value.toList.takeWhile Char.isDigit = digits := by
      rw [htext, List.takeWhile_append_of_pos hd.isDigit, hstart, List.append_nil]
    have hdrop : value.toList.dropWhile Char.isDigit = suffix := by
      have hsplit : suffix.takeWhile Char.isDigit ++ suffix.dropWhile Char.isDigit = suffix :=
        List.takeWhile_append_dropWhile
      rw [hstart, List.nil_append] at hsplit
      rw [htext, List.dropWhile_append_of_pos hd.isDigit, hsplit]
    have hne : digits.isEmpty = false := by simpa using hd.ne_nil
    simp only [cut?, htake, hdrop, hne, hsuffix]
    rfl

theorem read_of_not_writes (h : ¬ ∃ digits unit, Writes value digits unit) :
    read value = .error (.malformed value) := by
  have hcut : cut? value = none := by
    rw [Option.eq_none_iff_forall_ne_some]
    rintro ⟨digits, unit⟩ hcut
    exact h ⟨digits, unit, cut?_eq_some_iff.1 hcut⟩
  rw [read, hcut]

theorem read_of_writes (h : Writes value digits unit) :
    read value =
      if Decimal.maxDigits < digits.length then .error (.tooLong digits.length)
      else if maxNanoseconds < exactNanoseconds digits unit then .error (.overflow value)
      else .ok ⟨microsecondsOf (Nat.ofDigitChars 10 digits 0) unit⟩ := by
  rw [exactNanoseconds]
  have hcut := cut?_eq_some_iff.2 h
  have hread := Decimal.Integer.read_of_cutSign (Decimal.Integer.cutSign_of_isDigits h.isDigits)
    h.isDigits
  by_cases hlong : Decimal.maxDigits < digits.length
  · rw [if_pos hlong] at hread ⊢
    simp only [read, hcut, hread]
  · rw [if_neg hlong] at hread ⊢
    simp only [read, hcut, hread, Bool.false_eq_true, if_false, Int.toNat_natCast]
    by_cases hzero : Nat.ofDigitChars 10 digits 0 = 0
    · have hnone : microsecondsOf 0 unit = 0 := by
        rw [microsecondsOf_of_lt (by simp), Nat.zero_mul, Nat.zero_div]
      rw [hzero, hnone, if_pos rfl]
    · rw [if_neg hzero]

end

end Duration

end ProxyMaps
