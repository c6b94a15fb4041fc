/-
Which times are converted to the microseconds that they write.

The conversion rounds twice, the nanoseconds and their thousandth part. Up to 2
to the power of 62 nanoseconds, 146 years, what the first rounding moves the
second one moves back. From there on the spacing of the nanoseconds is more than
a microsecond, so a time of 21, 64 or 107 microseconds above a multiple of 128
is moved to its neighbour; and from 2 to the power of 53 microseconds on, no
number is odd. Nothing else is moved, and nothing further than that
(`read_exact_iff_not_moved`).
-/
import ProxyMaps.Proofs.Duration

namespace ProxyMaps.Duration

open Decimal (Binary64 roundDiv roundDiv_cases roundDiv_near)
open Decimal.Binary64 (whole)

/-! ## From nanoseconds -/

/-- Microseconds that have been nanoseconds on their way. -/
def converted (microseconds : Nat) : Nat :=
  toNearest ((Binary64.ofInt (microseconds * 1000 : Nat)).div (whole 1000))

section

variable {x : Nat}

/-- The nanoseconds are rounded to multiples of a power of two. -/
theorem converted_eq {k g : Nat} (hg : g = 2 ^ k) (hk : k ≤ 64)
    (hlow : 2 ^ 52 * g ≤ x * 1000) (hhigh : x * 1000 < 2 ^ 53 * g) :
    converted x = toNearest ((whole (roundDiv (x * 1000) g * g)).div (whole 1000)) := by
  subst hg
  rw [← Nat.pow_add] at hlow hhigh
  rw [converted, Binary64.ofInt_natCast,
    Binary64.round_scaled Nat.one_pos hk (by omega) (by omega), Nat.one_mul]

/-- A quotient of 53 bits is a whole number. -/
theorem toNearest_div_of_53_bits {p : Nat} (hlow : 2 ^ 52 * 1000 ≤ p) (hhigh : p < 2 ^ 53 * 1000) :
    toNearest ((whole p).div (whole 1000)) = roundDiv p 1000 := by
  rw [Binary64.whole_div_whole,
    Binary64.round_scaled (k := 0) (by decide) (by decide) hlow hhigh, toNearest_whole]
  simp

/-- A quotient of 54 bits is even. -/
theorem toNearest_div_of_54_bits {p : Nat} (hlow : 2 ^ 53 * 1000 ≤ p) (hhigh : p < 2 ^ 54 * 1000) :
    toNearest ((whole p).div (whole 1000)) = roundDiv p 2000 * 2 := by
  rw [Binary64.whole_div_whole,
    Binary64.round_scaled (k := 1) (by decide) (by decide) hlow hhigh, toNearest_whole]
  rfl

/-- A quotient of 52 bits is rounded to halves, and then once more. -/
theorem toNearest_div_of_52_bits {p : Nat} (hlow : 2 ^ 52 * 1000 ≤ 2 * p)
    (hhigh : 2 * p < 2 ^ 53 * 1000) :
    toNearest ((whole p).div (whole 1000)) = roundDiv (roundDiv (2 * p) 1000) 2 := by
  obtain ⟨half, hunit, hround⟩ := Binary64.round_half (by decide) hlow hhigh
  have hpos : 0 < half := by
    have := Binary64.unit_pos
    omega
  rw [Binary64.whole_div_whole, hround, toNearest, hunit, Decimal.roundDiv_mul_mul_right _ _ hpos]

/-- An even number stays, half a unit away or not. -/
theorem roundDiv_two_of_near {n : Nat} (hlow : 2 * x ≤ n + 1) (hhigh : n ≤ 2 * x + 1)
    (hx : x % 2 = 0 ∨ n = 2 * x) : roundDiv n 2 = x := by
  unfold roundDiv
  dsimp only
  split
  · omega
  split
  · omega
  split
  · omega
  · omega

/-- Below 2 to the power of 61 nanoseconds a quarter of a microsecond is lost at most. -/
theorem toNearest_div_of_near {p : Nat} (hlow : 2 ^ 52 * 1000 ≤ p * 2 ^ 60) (hhigh : p ≤ 2 ^ 61)
    (hnear : p ≤ x * 1000 + 128 ∧ x * 1000 ≤ p + 128) :
    toNearest ((whole p).div (whole 1000)) = x := by
  have hunit := Binary64.two_pow_le_unit
  have hlimit : 2 ^ 64 * Binary64.unit < Binary64.limit := Binary64.mul_unit_lt_limit (by decide)
  have hupper : p * Binary64.unit ≤ 2 ^ 61 * Binary64.unit := Nat.mul_le_mul_right _ hhigh
  have hlower : 2 ^ 52 * 1000 ≤ p * Binary64.unit :=
    Nat.le_trans hlow (Nat.mul_le_mul_left p (Nat.le_trans (by decide) hunit))
  have habove : p * Binary64.unit ≤ x * Binary64.unit * 1000 + 128 * Binary64.unit := by
    calc p * Binary64.unit ≤ (x * 1000 + 128) * Binary64.unit := Nat.mul_le_mul_right _ hnear.1
      _ = x * Binary64.unit * 1000 + 128 * Binary64.unit := by ring
  have hbelow : x * Binary64.unit * 1000 ≤ p * Binary64.unit + 128 * Binary64.unit := by
    calc x * Binary64.unit * 1000 = x * 1000 * Binary64.unit := by ring
      _ ≤ (p + 128) * Binary64.unit := Nat.mul_le_mul_right _ hnear.2
      _ = p * Binary64.unit + 128 * Binary64.unit := Nat.add_mul _ _ _
  obtain ⟨q, hq, hqlow, hqhigh⟩ := Binary64.div_whole_near (m := p * Binary64.unit) (n := 1000)
    (by decide) hlower (by omega)
  rw [whole, hq, toNearest]
  apply Decimal.roundDiv_eq_of_near
  · omega
  · omega

theorem converted_of_lt_two_pow_61 (h : x * 1000 < 2 ^ 61) : converted x = x := by
  by_cases hexact : x * 1000 < 2 ^ 53
  · rw [converted, Binary64.ofInt_whole hexact, Binary64.whole_div (by omega) (by decide),
      toNearest_whole]
  obtain ⟨k, hk, hlow, hhigh⟩ : ∃ k ≤ 8, 2 ^ 52 * 2 ^ k ≤ x * 1000 ∧ x * 1000 < 2 ^ 53 * 2 ^ k := by
    have hne : x * 1000 ≠ 0 := by omega
    have hlower : 53 ≤ (x * 1000).log2 := (Nat.le_log2 hne).2 (by omega)
    have hupper : (x * 1000).log2 < 61 := (Nat.log2_lt hne).2 h
    refine ⟨(x * 1000).log2 - 52, by omega, ?_, ?_⟩
    · rw [← Nat.pow_add, Nat.add_sub_cancel' (by omega)]
      exact Nat.log2_self_le hne
    · have hsucc : 53 + ((x * 1000).log2 - 52) = (x * 1000).log2 + 1 := by omega
      rw [← Nat.pow_add, hsucc]
      exact Nat.lt_log2_self
  have hgap : 2 ^ k ≤ 2 ^ 8 := Nat.pow_le_pow_right (by decide) hk
  obtain ⟨hplow, hphigh⟩ := roundDiv_near (x * 1000) (Nat.two_pow_pos k)
  rw [converted_eq rfl (by omega) hlow hhigh]
  exact toNearest_div_of_near (by omega) (by omega) ⟨by omega, by omega⟩

theorem converted_of_lt_two_pow_62 (hlow : 2 ^ 61 ≤ x * 1000) (hhigh : x * 1000 < 2 ^ 62) :
    converted x = x := by
  have hp := roundDiv_cases (x * 1000) 512
  rw [converted_eq (k := 9) (g := 512) rfl (by decide) (by omega) (by omega)]
  generalize roundDiv (x * 1000) 512 = m at hp ⊢
  have hm : 2 ^ 61 ≤ m * 512 ∧ m * 512 ≤ 2 ^ 62 := by omega
  rcases Nat.lt_or_ge (m * 512) (2 ^ 52 * 1000) with hbits | hbits
  · rw [toNearest_div_of_52_bits (by omega) (by omega)]
    have hq := roundDiv_cases (2 * (m * 512)) 1000
    apply roundDiv_two_of_near <;> omega
  · rw [toNearest_div_of_53_bits hbits (Nat.lt_of_le_of_lt hm.2 (by decide))]
    have hq := roundDiv_cases (m * 512) 1000
    omega

/-- Which microseconds are moved, once the spacing of the nanoseconds is more than one of them. -/
theorem residue_iff : (125 * x % 128 = 63 ∨ 125 * x % 128 = 64 ∨ 125 * x % 128 = 65) ↔
    (x % 128 = 21 ∨ x % 128 = 64 ∨ x % 128 = 107) := by
  -- 85 is the inverse of 125
  have hinv : x % 128 = 85 * (125 * x % 128) % 128 := by omega
  constructor
  · rintro (h | h | h) <;> rw [h] at hinv <;> omega
  · omega

theorem converted_of_lt_two_pow_53 (hlow : 2 ^ 62 ≤ x * 1000) (hhigh : x < 2 ^ 53) :
    (converted x = x ↔ ¬ (x % 128 = 21 ∨ x % 128 = 64 ∨ x % 128 = 107)) ∧
      x ≤ converted x + 1 ∧ converted x ≤ x + 1 := by
  have hp := roundDiv_cases (x * 1000) 1024
  rw [converted_eq (k := 10) (g := 1024) rfl (by decide) (by omega) (by omega)]
  generalize roundDiv (x * 1000) 1024 = m at hp ⊢
  have hm : 2 ^ 62 ≤ m * 1024 ∧ m * 1024 < 2 ^ 53 * 1000 := by omega
  rw [toNearest_div_of_53_bits (Nat.le_trans (by decide) hm.1) hm.2]
  have hq := roundDiv_cases (m * 1024) 1000
  refine ⟨?_, by omega, by omega⟩
  have hdiv : 128 * (125 * x / 128) + 125 * x % 128 = 125 * x := Nat.div_add_mod _ _
  have hlt : 125 * x % 128 < 128 := Nat.mod_lt _ (by decide)
  have hround : m = 125 * x / 128 ∧ 125 * x % 128 ≤ 64 ∨
      m = 125 * x / 128 + 1 ∧ 64 ≤ 125 * x % 128 := by omega
  rw [← residue_iff]
  generalize 125 * x / 128 = n at hdiv hround
  generalize 125 * x % 128 = r at hdiv hlt hround ⊢
  clear hp hm
  rcases hround with ⟨rfl, hr⟩ | ⟨rfl, hr⟩
  · omega
  · omega

/-- Even microseconds are kept by both roundings, where both have a spacing of two at most. -/
theorem converted_of_even (hlow : 2 ^ 53 ≤ x) (hhigh : x ≤ 2 ^ 63 / 1000 + 1) (hx : x % 2 = 0) :
    converted x = x := by
  rcases Nat.lt_or_ge (x * 1000) (2 ^ 63) with hbits | hbits
  · have hp := roundDiv_cases (x * 1000) 1024
    rw [converted_eq (k := 10) (g := 1024) rfl (by decide) (by omega) (by omega)]
    generalize roundDiv (x * 1000) 1024 = m at hp ⊢
    have hm : 2 ^ 53 * 1000 ≤ m * 1024 ∧ m * 1024 ≤ 2 ^ 63 := by omega
    rw [toNearest_div_of_54_bits hm.1 (Nat.lt_of_le_of_lt hm.2 (by decide))]
    have hq := roundDiv_cases (m * 1024) 2000
    omega
  · have hp := roundDiv_cases (x * 1000) 2048
    rw [converted_eq (k := 11) (g := 2048) rfl (by decide) (by omega) (by omega)]
    generalize roundDiv (x * 1000) 2048 = m at hp ⊢
    have hm : m * 2048 = 2 ^ 63 := by omega
    rw [hm, toNearest_div_of_54_bits (by decide) (by decide)]
    have hq := roundDiv_cases (2 ^ 63) 2000
    omega

theorem converted_evened (hlow : 2 ^ 53 ≤ x) (hhigh : x * 1000 < 2 ^ 63) :
    converted (roundDiv x 2 * 2) = roundDiv x 2 * 2 := by
  have hround := roundDiv_cases x 2
  exact converted_of_even (by omega) (by omega) (Nat.mul_mod_left _ 2)

end

/-! ## From counts -/

section

variable {count : Nat} {unit : TimeUnit}

theorem quotient_of_count_lt (hcount : count < 2 ^ 53) {ns : Nat} (hns : ns < 2 ^ 53) :
    quotient count ns = (Binary64.ofInt (count * ns : Nat)).div (whole 1000) := by
  rw [quotient, Binary64.ofInt_whole hcount, Binary64.ofInt_whole hns, Binary64.whole_mul_whole,
    ofInt_thousand]

/-- A count of 54 bits is rounded to an even one. -/
theorem quotient_thousand (hlow : 2 ^ 53 ≤ count) (hhigh : count < 2 ^ 54) :
    quotient count 1000 =
      (Binary64.ofInt (roundDiv count 2 * 2 * 1000 : Nat)).div (whole 1000) := by
  have hcount : Binary64.ofInt count = whole (roundDiv count 2 * 2) := by
    rw [Binary64.ofInt_natCast,
      Binary64.round_scaled (k := 1) Nat.one_pos (by decide) (by omega) (by omega)]
    rfl
  rw [quotient, hcount, Binary64.ofInt_whole (n := 1000) (by decide), Binary64.whole_mul_whole,
    ofInt_thousand]

/-- Only microseconds are counted that far. -/
theorem eq_microsecond_of_count (hcount : 2 ^ 53 ≤ count) (h : count * unit.nanoseconds < 2 ^ 63) :
    unit = .microsecond := by
  cases unit with
  | microsecond => rfl
  | _ => simp only [TimeUnit.nanoseconds] at h; omega

/-- So many microseconds are even, unless they have been counted as such. -/
theorem even_of_count (hcount : count < 2 ^ 53) (h : 2 ^ 53 * 1000 ≤ count * unit.nanoseconds) :
    count * unit.nanoseconds / 1000 % 2 = 0 := by
  cases unit <;> simp only [TimeUnit.nanoseconds] at h ⊢ <;> omega

/-- What a time becomes: its microseconds converted, which have been made even before
if their count has too many bits. -/
theorem microsecondsOf_cases {x : Nat} (hx : count * unit.nanoseconds = x * 1000)
    (h : x * 1000 < 2 ^ 63) :
    (microsecondsOf count unit = converted x ∧ (2 ^ 53 ≤ x → x % 2 = 0)) ∨
      (2 ^ 53 ≤ x ∧ microsecondsOf count unit = converted (roundDiv x 2 * 2)) := by
  obtain ⟨c, u, hfloating, hns⟩ := floating_eq_quotient count unit
  rw [hx] at hns
  rw [microsecondsOf_eq, hfloating]
  rcases Nat.lt_or_ge c (2 ^ 53) with hcount | hcount
  · refine .inl ⟨?_, fun hbits => ?_⟩
    · rw [quotient_of_count_lt hcount u.nanoseconds_lt, hns, converted]
    · have heven : c * u.nanoseconds / 1000 % 2 = 0 := even_of_count hcount (by omega)
      rwa [hns, Nat.mul_div_cancel x (by decide)] at heven
  · obtain rfl : u = .microsecond := eq_microsecond_of_count hcount (by omega)
    obtain rfl : c = x := Nat.eq_of_mul_eq_mul_right (by decide) hns
    refine .inr ⟨hcount, ?_⟩
    rw [TimeUnit.nanoseconds, quotient_thousand hcount (by omega), converted]

/-- Microseconds that are not kept: the nanoseconds are too far apart, or odd numbers of
microseconds are missing. -/
def Moved (x : Nat) : Prop :=
  (2 ^ 62 ≤ x * 1000 ∧ x < 2 ^ 53 ∧ (x % 128 = 21 ∨ x % 128 = 64 ∨ x % 128 = 107)) ∨
    (2 ^ 53 ≤ x ∧ x % 2 = 1)

instance (x : Nat) : Decidable (Moved x) :=
  inferInstanceAs (Decidable ((_ ∧ _ ∧ (_ ∨ _ ∨ _)) ∨ (_ ∧ _)))

/-- The microseconds are the exact ones unless they are moved, and then they are next to them. -/
theorem microsecondsOf_exact_iff {x : Nat} (hx : count * unit.nanoseconds = x * 1000)
    (h : x * 1000 < 2 ^ 63) :
    (microsecondsOf count unit = x ↔ ¬ Moved x) ∧
      x ≤ microsecondsOf count unit + 1 ∧ microsecondsOf count unit ≤ x + 1 := by
  rcases microsecondsOf_cases hx h with ⟨heq, heven⟩ | ⟨hlarge, heq⟩
  · rw [heq]
    rcases Nat.lt_or_ge x (2 ^ 53) with hbits | hbits
    · rcases Nat.lt_or_ge (x * 1000) (2 ^ 62) with hns | hns
      · have hkept : converted x = x := by
          rcases Nat.lt_or_ge (x * 1000) (2 ^ 61) with hsmall | hsmall
          · exact converted_of_lt_two_pow_61 hsmall
          · exact converted_of_lt_two_pow_62 hsmall hns
        have hnot : ¬ Moved x := by
          unfold Moved
          omega
        exact ⟨iff_of_true hkept hnot, by omega, by omega⟩
      · obtain ⟨hiff, hnear⟩ := converted_of_lt_two_pow_53 hns hbits
        refine ⟨hiff.trans (not_congr ?_), hnear⟩
        unfold Moved
        omega
    · have hkept := converted_of_even hbits (by omega) (heven hbits)
      have hnot : ¬ Moved x := by
        have := heven hbits
        unfold Moved
        omega
      exact ⟨iff_of_true hkept hnot, by omega, by omega⟩
  · have hround := roundDiv_cases x 2
    rw [heq, converted_evened hlarge h]
    unfold Moved
    omega

end

/-! ## From texts -/

theorem exactNanoseconds_eq (digits : List Char) (unit : TimeUnit) :
    exactNanoseconds digits unit = exactNanoseconds digits unit / 1000 * 1000 :=
  (Nat.div_mul_cancel (Nat.dvd_trans unit.thousand_dvd_nanoseconds (Nat.dvd_mul_left _ _))).symm

/-- **Reading a time.** A text that writes a time of less than 2 to the power of
63 nanoseconds is read as that time, which is a whole number of microseconds,
unless the conversion moves it; then it is read as the microsecond before or
behind it. A longer time is an overflow. -/
theorem read_exact_iff_not_moved {value : String} {digits : List Char} {unit : TimeUnit}
    (h : Writes value digits unit) (hshort : digits.length ≤ 4300) :
    exactNanoseconds digits unit % 1000 = 0 ∧
    (exactNanoseconds digits unit ≤ 2 ^ 63 - 1 →
      ∃ m, read value = .ok ⟨m⟩ ∧
        (m = exactNanoseconds digits unit / 1000 ↔
          ¬ Moved (exactNanoseconds digits unit / 1000)) ∧
        exactNanoseconds digits unit / 1000 ≤ m + 1 ∧
        m ≤ exactNanoseconds digits unit / 1000 + 1) ∧
    (2 ^ 63 - 1 < exactNanoseconds digits unit → read value = .error (.overflow value)) := by
  have hmax : maxNanoseconds = 2 ^ 63 - 1 := rfl
  have hread := read_of_writes h
  have hexact := exactNanoseconds_eq digits unit
  rw [if_neg (show ¬ Decimal.maxDigits < digits.length from Nat.not_lt.2 hshort), hmax] at hread
  refine ⟨by omega, fun hsmall => ?_, fun hlarge => ?_⟩
  · rw [if_neg (Nat.not_lt.2 hsmall)] at hread
    exact ⟨_, hread, microsecondsOf_exact_iff hexact (by omega)⟩
  · rw [hread, if_pos hlarge]

theorem read_exact_106751_days :
    Writes "106751d" "106751".toList .day ∧ read "106751d" = .ok ⟨106751 * 24 * 3600 * 1000000⟩ ∧
      read "106752d" = .error (.overflow "106752d") := by
  have hdays : Writes "106751d" "106751".toList .day := ⟨by decide, .inl rfl⟩
  have hmore : Writes "106752d" "106752".toList .day := ⟨by decide, .inl rfl⟩
  obtain ⟨-, hwithin, -⟩ := read_exact_iff_not_moved hdays (by decide)
  obtain ⟨-, -, hbeyond⟩ := read_exact_iff_not_moved hmore (by decide)
  obtain ⟨m, hread, hexact, -⟩ := hwithin (by decide)
  obtain rfl := hexact.2 (by decide)
  exact ⟨hdays, hread, hbeyond (by decide)⟩

/-- A time of 146 years in seconds is read as a microsecond more. -/
theorem not_read_exact_of_seconds :
    Writes "4611686019s" "4611686019".toList .second ∧
      exactNanoseconds "4611686019".toList .second ≤ 2 ^ 63 - 1 ∧
      exactNanoseconds "4611686019".toList .second / 1000 = 4611686019000000 ∧
      read "4611686019s" = .ok ⟨4611686019000001⟩ := by
  have hwrites : Writes "4611686019s" "4611686019".toList .second := ⟨by decide, .inl rfl⟩
  have hrounded : microsecondsOf (Nat.ofDigitChars 10 "4611686019".toList 0) .second =
      4611686019000001 := by decide +kernel
  refine ⟨hwrites, by decide, by decide, ?_⟩
  rw [read_of_writes hwrites, if_neg (by decide), if_neg (by decide), hrounded]

end ProxyMaps.Duration
