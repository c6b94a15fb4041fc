/-
What rounding does to a number, compared as integers: the exact value is
`num / den` and what it is rounded to is `n`, so `n * den` and `num` are close.

A quotient is rounded to an integer half a unit away at most (`roundDiv_near`).
So a number is rounded to one half a spacing away at most, which is a part in
2 to the power of 53 of it (`near_nearest`), and a number with that many bits
stays what it is (`nearest_of_fits`). Arithmetic of whole numbers below that
bound is exact (`whole_mul`, `whole_div`). Where the size of a quotient is known,
so is the spacing that it is rounded to (`round_scaled`, `round_half`).
-/
import Mathlib.Tactic.Ring
import ProxyMaps.Decimal.Binary64

namespace ProxyMaps.Decimal

/-! ## Integers -/

theorem roundDiv_cases (num den : Nat) :
    (roundDiv num den = num / den ∧ 2 * (num % den) ≤ den) ∨
      (roundDiv num den = num / den + 1 ∧ den ≤ 2 * (num % den)) := by
  unfold roundDiv
  dsimp only
  split
  · exact .inl ⟨rfl, by omega⟩
  split
  · exact .inr ⟨rfl, by omega⟩
  split
  · exact .inl ⟨rfl, by omega⟩
  · exact .inr ⟨rfl, by omega⟩

theorem roundDiv_near (num : Nat) {den : Nat} (hden : 0 < den) :
    2 * num ≤ 2 * (roundDiv num den * den) + den ∧
      2 * (roundDiv num den * den) ≤ 2 * num + den := by
  have hdiv : num / den * den + num % den = num := Nat.div_add_mod' num den
  have hmod : num % den < den := Nat.mod_lt num hden
  rcases roundDiv_cases num den with ⟨h, hlow⟩ | ⟨h, hhigh⟩
  · rw [h]
    omega
  · rw [h, Nat.add_mul, Nat.one_mul]
    omega

/-- What is less than half a unit away from a quotient is what it is rounded to. -/
theorem roundDiv_eq_of_near {num den n : Nat} (hlow : 2 * (n * den) < 2 * num + den)
    (hhigh : 2 * num < 2 * (n * den) + den) : roundDiv num den = n := by
  have hden : 0 < den := by omega
  obtain ⟨hlower, hupper⟩ := roundDiv_near num hden
  rcases Nat.lt_trichotomy (roundDiv num den) n with h | h | h
  · have hstep := Nat.mul_le_mul_right den (Nat.succ_le_of_lt h)
    rw [Nat.succ_mul] at hstep
    omega
  · exact h
  · have hstep := Nat.mul_le_mul_right den (Nat.succ_le_of_lt h)
    rw [Nat.succ_mul] at hstep
    omega

/-- The fraction may be cancelled. -/
theorem roundDiv_mul_mul_right (num den : Nat) {k : Nat} (hk : 0 < k) :
    roundDiv (num * k) (den * k) = roundDiv num den := by
  have hbelow : 2 * (num % den * k) < den * k ↔ 2 * (num % den) < den := by
    rw [← Nat.mul_assoc, Nat.mul_lt_mul_right hk]
  have habove : den * k < 2 * (num % den * k) ↔ den < 2 * (num % den) := by
    rw [← Nat.mul_assoc, Nat.mul_lt_mul_right hk]
  simp only [roundDiv, Nat.mul_div_mul_right num den hk, Nat.mul_mod_mul_right, hbelow, habove]

theorem roundDiv_mul_self (n : Nat) {den : Nat} (hden : 0 < den) : roundDiv (n * den) den = n := by
  rcases roundDiv_cases (n * den) den with ⟨h, -⟩ | ⟨-, h⟩
  · rw [h, Nat.mul_div_cancel n hden]
  · rw [Nat.mul_mod_left] at h
    omega

namespace Binary64

/-! ## Spacing -/

theorem spacing_pos (q : Nat) : 0 < spacing q := Nat.pow_pos (by decide)

/-- One and the first size that is too large are powers of two, far apart. -/
theorem exists_unit_limit_eq :
    ∃ k l, unit = 2 ^ k ∧ limit = 2 ^ l ∧ 128 ≤ k ∧ k + 128 ≤ l := by
  unfold unit limit
  -- the exponents are named, since the powers are too large to be computed
  generalize hk : 1074 = k
  generalize hl : 2098 = l
  exact ⟨k, l, Nat.pow_eq, Nat.pow_eq, by omega, by omega⟩

theorem two_pow_le_unit : 2 ^ 128 ≤ unit := by
  obtain ⟨k, -, hunit, -, hk, -⟩ := exists_unit_limit_eq
  rw [hunit]
  exact Nat.pow_le_pow_right (by decide) hk

theorem unit_pos : 0 < unit := Nat.lt_of_lt_of_le (by decide) two_pow_le_unit

/-- A size below 2 to the power of 128 is far from too large. -/
theorem mul_unit_lt_limit {n : Nat} (h : n < 2 ^ 128) : n * unit < limit := by
  obtain ⟨k, l, hunit, hlimit, -, hl⟩ := exists_unit_limit_eq
  calc n * unit < 2 ^ 128 * unit := Nat.mul_lt_mul_of_pos_right h unit_pos
    _ = 2 ^ (k + 128) := by rw [hunit, ← Nat.pow_add, Nat.add_comm]
    _ ≤ limit := by
      rw [hlimit]
      exact Nat.pow_le_pow_right (by decide) hl

/-- A number of at least 53 bits has 52 of them below the first. -/
theorem spacing_mul_le {q : Nat} (h : 2 ^ 52 ≤ q) : spacing q * 2 ^ 52 ≤ q := by
  have hne : q ≠ 0 := by omega
  have hlog : 52 ≤ q.log2 := (Nat.le_log2 hne).2 h
  calc spacing q * 2 ^ 52 = 2 ^ q.log2 := by
        rw [spacing, Nat.pow_eq, ← Nat.pow_add, Nat.sub_add_cancel hlog]
    _ ≤ q := Nat.log2_self_le hne

theorem spacing_eq {q k : Nat} (hlow : 2 ^ (52 + k) ≤ q) (hhigh : q < 2 ^ (53 + k)) :
    spacing q = 2 ^ k := by
  have hne : q ≠ 0 := Nat.ne_of_gt (Nat.lt_of_lt_of_le (Nat.two_pow_pos _) hlow)
  have hlower : 52 + k ≤ q.log2 := (Nat.le_log2 hne).2 hlow
  have hupper : q.log2 < 53 + k := (Nat.log2_lt hne).2 hhigh
  have hlog : q.log2 - 52 = k := by omega
  rw [spacing, Nat.pow_eq, hlog]

/-- A multiple of the least positive number that is a number itself. -/
def Fits (n : Nat) : Prop := spacing n ∣ n

/-- An integer below 2 to the power of 53 times a power of two. -/
theorem Fits.of_lt {n : Nat} (h : n < 2 ^ 53) (k : Nat) : Fits (n * 2 ^ k) := by
  rcases Nat.eq_zero_or_pos n with rfl | hpos
  · rw [Nat.zero_mul]
    exact Nat.dvd_zero _
  have hne : n * 2 ^ k ≠ 0 := Nat.ne_of_gt (Nat.mul_pos hpos (Nat.two_pow_pos k))
  have hlog : (n * 2 ^ k).log2 < 53 + k := (Nat.log2_lt hne).2 (by
    rw [Nat.pow_add]
    exact Nat.mul_lt_mul_of_pos_right h (Nat.two_pow_pos k))
  have hspacing : spacing (n * 2 ^ k) ∣ 2 ^ k := Nat.pow_dvd_pow 2 (by omega)
  exact Nat.dvd_trans hspacing (Nat.dvd_mul_left _ _)

/-! ## Nearest numbers -/

/-- A number that needs no rounding is its own rounding. -/
theorem nearest_of_fits {n den : Nat} (h : Fits n) (hden : 0 < den) :
    nearest (n * den) den = n := by
  obtain ⟨m, hm⟩ := h
  rw [nearest, Nat.mul_div_cancel n hden]
  have hnum : n * den = m * (den * spacing n) := by
    calc n * den = spacing n * m * den := by rw [← hm]
      _ = m * (den * spacing n) := by ring
  rw [hnum, roundDiv_mul_self m (Nat.mul_pos hden (spacing_pos n)), Nat.mul_comm, ← hm]

/-- The spacing of a quotient is all that has to be known to round it. -/
theorem nearest_eq {num den k : Nat} (hden : 0 < den) (hlow : 2 ^ (52 + k) * den ≤ num)
    (hhigh : num < 2 ^ (53 + k) * den) :
    nearest num den = roundDiv num (den * 2 ^ k) * 2 ^ k := by
  have hspacing : spacing (num / den) = 2 ^ k :=
    spacing_eq ((Nat.le_div_iff_mul_le hden).2 hlow) ((Nat.div_lt_iff_lt_mul hden).2 hhigh)
  rw [nearest, hspacing]

theorem nearest_mul_mul_right (num den : Nat) {k : Nat} (hk : 0 < k) :
    nearest (num * k) (den * k) = nearest num den := by
  rw [nearest, nearest, Nat.mul_div_mul_right num den hk, Nat.mul_right_comm den k,
    roundDiv_mul_mul_right _ _ hk]

theorem round_mul_mul_right (s : Bool) (num den : Nat) {k : Nat} (hk : 0 < k) :
    round s (num * k) (den * k) = round s num den := by
  rw [round, round, nearest_mul_mul_right num den hk]

/-- A number is `num / den`, give or take a part in 2 to the power of 53. -/
structure Near (n num den : Nat) : Prop where
  lower : 2 ^ 53 * num ≤ 2 ^ 53 * (n * den) + num
  upper : 2 ^ 53 * (n * den) ≤ 2 ^ 53 * num + num

namespace Near

variable {n num den : Nat}

/-- The fraction may be cancelled. -/
theorem cancel {k : Nat} (h : Near n (num * k) (den * k)) (hk : 0 < k) : Near n num den := by
  have hlower := h.lower
  have hupper := h.upper
  constructor
  · refine Nat.le_of_mul_le_mul_right ?_ hk
    calc 2 ^ 53 * num * k = 2 ^ 53 * (num * k) := by ring
      _ ≤ 2 ^ 53 * (n * (den * k)) + num * k := hlower
      _ = (2 ^ 53 * (n * den) + num) * k := by ring
  · refine Nat.le_of_mul_le_mul_right ?_ hk
    calc 2 ^ 53 * (n * den) * k = 2 ^ 53 * (n * (den * k)) := by ring
      _ ≤ 2 ^ 53 * (num * k) + num * k := hupper
      _ = (2 ^ 53 * num + num) * k := by ring

theorem mul_right (h : Near n num den) (k : Nat) : Near (n * k) (num * k) den := by
  constructor
  · calc 2 ^ 53 * (num * k) = 2 ^ 53 * num * k := by ring
      _ ≤ (2 ^ 53 * (n * den) + num) * k := Nat.mul_le_mul_right k h.lower
      _ = 2 ^ 53 * (n * k * den) + num * k := by ring
  · calc 2 ^ 53 * (n * k * den) = 2 ^ 53 * (n * den) * k := by ring
      _ ≤ (2 ^ 53 * num + num) * k := Nat.mul_le_mul_right k h.upper
      _ = 2 ^ 53 * (num * k) + num * k := by ring

end Near

theorem near_nearest {num den : Nat} (hden : 0 < den) (h : 2 ^ 52 * den ≤ num) :
    Near (nearest num den) num den := by
  have hq : 2 ^ 52 ≤ num / den := (Nat.le_div_iff_mul_le hden).2 h
  -- half a spacing, scaled by the denominator, is a part in 2 to the power of 53 of the number
  have hgap : 2 ^ 52 * (den * spacing (num / den)) ≤ num := by
    calc 2 ^ 52 * (den * spacing (num / den)) = spacing (num / den) * 2 ^ 52 * den := by ring
      _ ≤ num / den * den := Nat.mul_le_mul_right den (spacing_mul_le hq)
      _ ≤ num := Nat.div_mul_le_self num den
  obtain ⟨hlower, hupper⟩ := roundDiv_near num (Nat.mul_pos hden (spacing_pos (num / den)))
  have hvalue : nearest num den * den =
      roundDiv num (den * spacing (num / den)) * (den * spacing (num / den)) := by
    rw [nearest]
    ring
  rw [← hvalue] at hlower hupper
  constructor <;> omega

theorem round_of_lt (s : Bool) {num den : Nat} (h : nearest num den < limit) :
    round s num den = finite s (nearest num den) := by
  rw [round, if_pos h]

theorem nearest_lt_limit {num den : Nat} (hden : 0 < den) (hlow : 2 ^ 52 * den ≤ num)
    (hhigh : 2 * num < limit * den) : nearest num den < limit := by
  refine Nat.lt_of_mul_lt_mul_right (a := den) ?_
  have hupper := (near_nearest hden hlow).upper
  omega

/-- Rounding a number that is neither tiny nor huge. -/
theorem round_near (s : Bool) {num den : Nat} (hden : 0 < den) (hlow : 2 ^ 52 * den ≤ num)
    (hhigh : 2 * num < limit * den) : ∃ n, round s num den = finite s n ∧ Near n num den :=
  ⟨nearest num den, round_of_lt s (nearest_lt_limit hden hlow hhigh), near_nearest hden hlow⟩

/-! ## Whole numbers -/

/-- A whole number. -/
def whole (n : Nat) : Binary64 := finite false (n * unit)

theorem round_whole {n den : Nat} (h : n < 2 ^ 53) (hden : 0 < den) :
    round false (n * unit * den) den = whole n := by
  have hfits : Fits (n * unit) := by
    obtain ⟨k, -, hunit, -⟩ := exists_unit_limit_eq
    rw [hunit]
    exact Fits.of_lt h k
  have hnearest := nearest_of_fits hfits hden
  have hlt : nearest (n * unit * den) den < limit := by
    rw [hnearest]
    exact mul_unit_lt_limit (by omega)
  rw [round_of_lt false hlt, hnearest, whole]

theorem ofInt_natCast (n : Nat) : ofInt n = round false (n * unit) 1 := by
  have hsign : decide ((n : Int) < 0) = false := decide_eq_false (by omega)
  rw [ofInt, hsign, Int.natAbs_natCast]

theorem ofInt_whole {n : Nat} (h : n < 2 ^ 53) : ofInt n = whole n := by
  have hround := round_whole h Nat.one_pos
  rwa [Nat.mul_one, ← ofInt_natCast] at hround

theorem whole_mul {a b : Nat} (h : a * b < 2 ^ 53) : (whole a).mul (whole b) = whole (a * b) := by
  have hnum : a * unit * (b * unit) = a * b * unit * unit := by ring
  rw [whole, whole, mul, hnum]
  exact round_whole h unit_pos

theorem whole_div {a b : Nat} (h : a < 2 ^ 53) (hb : 0 < b) :
    (whole (a * b)).div (whole b) = whole a := by
  have hnum : a * b * unit * unit = a * unit * (b * unit) := by ring
  rw [whole, whole, div, hnum]
  exact round_whole h (Nat.mul_pos hb unit_pos)

/-! ## Numbers of a known size -/

theorem whole_mul_whole (a b : Nat) : (whole a).mul (whole b) = ofInt (a * b : Nat) := by
  have hnum : a * unit * (b * unit) = a * b * unit * unit := by ring
  have hround := round_mul_mul_right false (a * b * unit) 1 unit_pos
  rw [Nat.one_mul] at hround
  rw [whole, whole, mul, hnum, ofInt_natCast]
  exact hround

theorem whole_div_whole (a b : Nat) : (whole a).div (whole b) = round false (a * unit) b := by
  rw [whole, whole, div]
  exact round_mul_mul_right false (a * unit) b unit_pos

theorem round_of_bounds {n d : Nat} (hd : 0 < d) (hlow : 2 ^ 52 * d ≤ 2 * n)
    (hhigh : n < 2 ^ 120 * d) : round false (n * unit) d = finite false (nearest (n * unit) d) := by
  refine round_of_lt false (nearest_lt_limit hd ?_ ?_)
  · calc 2 ^ 52 * d ≤ 2 * n := hlow
      _ ≤ unit * n := Nat.mul_le_mul_right n (Nat.le_trans (by decide) two_pow_le_unit)
      _ = n * unit := Nat.mul_comm unit n
  · have hlimit : 2 ^ 121 * unit < limit := mul_unit_lt_limit (by decide)
    calc 2 * (n * unit) = 2 * n * unit := (Nat.mul_assoc 2 n unit).symm
      _ ≤ 2 ^ 121 * d * unit := Nat.mul_le_mul_right unit (by omega)
      _ = 2 ^ 121 * unit * d := Nat.mul_right_comm _ d unit
      _ < limit * d := Nat.mul_lt_mul_of_pos_right hlimit hd

/-- Of a quotient of `53 + k` bits the last `k` are rounded away. -/
theorem round_scaled {n d k : Nat} (hd : 0 < d) (hk : k ≤ 64) (hlow : 2 ^ (52 + k) * d ≤ n)
    (hhigh : n < 2 ^ (53 + k) * d) :
    round false (n * unit) d = whole (roundDiv n (d * 2 ^ k) * 2 ^ k) := by
  have hnearest : nearest (n * unit) d = roundDiv n (d * 2 ^ k) * 2 ^ k * unit := by
    obtain ⟨l, -, hunit, -⟩ := exists_unit_limit_eq
    have hscale : ∀ m, 2 ^ (m + (k + l)) * d = 2 ^ (m + k) * d * unit := by
      intro m
      rw [hunit]
      ring
    have hlow' : 2 ^ (52 + (k + l)) * d ≤ n * unit := by
      rw [hscale]
      exact Nat.mul_le_mul_right unit hlow
    have hhigh' : n * unit < 2 ^ (53 + (k + l)) * d := by
      rw [hscale]
      exact Nat.mul_lt_mul_of_pos_right hhigh unit_pos
    rw [nearest_eq hd hlow' hhigh', Nat.pow_add, ← hunit, ← Nat.mul_assoc d, ← Nat.mul_assoc,
      roundDiv_mul_mul_right _ _ unit_pos]
  have hlow52 : 2 ^ 52 * d ≤ 2 ^ (52 + k) * d :=
    Nat.mul_le_mul_right d (Nat.pow_le_pow_right (by decide) (Nat.le_add_right 52 k))
  have hhigh120 : 2 ^ (53 + k) * d ≤ 2 ^ 120 * d :=
    Nat.mul_le_mul_right d (Nat.pow_le_pow_right (by decide) (by omega))
  rw [round_of_bounds hd (by omega) (by omega), hnearest, whole]

/-- A quotient of 52 bits keeps one behind the point. -/
theorem round_half {n d : Nat} (hd : 0 < d) (hlow : 2 ^ 52 * d ≤ 2 * n)
    (hhigh : 2 * n < 2 ^ 53 * d) :
    ∃ half, unit = 2 * half ∧
      round false (n * unit) d = finite false (roundDiv (2 * n) d * half) := by
  obtain ⟨l, -, hunit, -, hl, -⟩ := exists_unit_limit_eq
  obtain ⟨m, rfl⟩ : ∃ m, l = m + 1 := ⟨l - 1, by omega⟩
  have hhalf : unit = 2 * 2 ^ m := by rw [hunit, Nat.pow_succ, Nat.mul_comm]
  have hnum : n * unit = 2 * n * 2 ^ m := by
    rw [hhalf]
    ring
  have hscale : ∀ b, 2 ^ (b + m) * d = 2 ^ b * d * 2 ^ m := by
    intro b
    ring
  have hlow' : 2 ^ (52 + m) * d ≤ n * unit := by
    rw [hscale, hnum]
    exact Nat.mul_le_mul_right _ hlow
  have hhigh' : n * unit < 2 ^ (53 + m) * d := by
    rw [hscale, hnum]
    exact Nat.mul_lt_mul_of_pos_right hhigh (Nat.two_pow_pos m)
  refine ⟨2 ^ m, hhalf, ?_⟩
  rw [round_of_bounds hd hlow (by omega), nearest_eq hd hlow' hhigh', hnum,
    roundDiv_mul_mul_right _ _ (Nat.two_pow_pos m)]

/-! ## Numbers near the exact result -/

theorem ofInt_near {n : Nat} (hpos : 0 < n) (hhigh : 2 * n * unit < limit) :
    ∃ m, ofInt n = finite false m ∧ Near m (n * unit) 1 := by
  have hlow : unit ≤ n * unit := Nat.le_mul_of_pos_left unit hpos
  have hunit := two_pow_le_unit
  rw [Nat.mul_assoc] at hhigh
  rw [ofInt_natCast]
  exact round_near false Nat.one_pos (by omega) (by omega)

theorem mul_whole_near {m n : Nat} (hlow : 2 ^ 52 ≤ m * n) (hhigh : 2 * (m * n) < limit) :
    ∃ k, (finite false m).mul (whole n) = finite false k ∧ Near k (m * n) 1 := by
  have hround : (finite false m).mul (whole n) = round false (m * n * unit) (1 * unit) := by
    rw [whole, mul, Nat.mul_assoc, Nat.one_mul]
    rfl
  have hscaled : 2 * (m * n * unit) < limit * (1 * unit) := by
    rw [← Nat.mul_assoc, Nat.one_mul]
    exact Nat.mul_lt_mul_of_pos_right hhigh unit_pos
  obtain ⟨k, hk, hnear⟩ := round_near false (by rw [Nat.one_mul]; exact unit_pos)
    (by rw [Nat.one_mul]; exact Nat.mul_le_mul_right unit hlow) hscaled
  exact ⟨k, hround.trans hk, hnear.cancel unit_pos⟩

theorem div_whole_near {m n : Nat} (hn : 0 < n) (hlow : 2 ^ 52 * n ≤ m)
    (hhigh : 2 * m < limit * n) :
    ∃ k, (finite false m).div (whole n) = finite false k ∧ Near k m n := by
  have hscaled : 2 * (m * unit) < limit * (n * unit) := by
    rw [← Nat.mul_assoc, ← Nat.mul_assoc]
    exact Nat.mul_lt_mul_of_pos_right hhigh unit_pos
  obtain ⟨k, hk, hnear⟩ := round_near false (Nat.mul_pos hn unit_pos)
    (by rw [← Nat.mul_assoc]; exact Nat.mul_le_mul_right unit hlow) hscaled
  exact ⟨k, hk, hnear.cancel unit_pos⟩

end Binary64

end ProxyMaps.Decimal
