/-
Decimals as binary numbers. A decimal is converted by its value alone, however
many zeros its digits end in (`ofScientific_mul_pow`), and one that is less than a
part in 2 to the power of 54 away from a number becomes that number
(`ofScientific_of_close`).
-/
import ProxyMaps.Decimal.Shortest
import ProxyMaps.Proofs.Decimal.Rounding

namespace ProxyMaps.Decimal

/-! ## How many digits a number has -/

theorem lt_pow_length_toDigits (n : Nat) : n < 10 ^ (Nat.toDigits 10 n).length :=
  (Nat.length_toDigits_le_iff (by decide) Nat.length_toDigits_pos).1 (Nat.le_refl _)

theorem pow_length_toDigits_le {n : Nat} (h : 0 < n) :
    10 ^ ((Nat.toDigits 10 n).length - 1) ≤ n := by
  have hpos : 0 < (Nat.toDigits 10 n).length := Nat.length_toDigits_pos
  rcases Nat.eq_zero_or_pos ((Nat.toDigits 10 n).length - 1) with hone | hmore
  · rw [hone]
    exact h
  · refine Nat.le_of_not_lt fun hlt => ?_
    have := (Nat.length_toDigits_le_iff (by decide) hmore).2 hlt
    omega

theorem lt_length_toDigits_iff {n k : Nat} (hn : 0 < n) :
    k < (Nat.toDigits 10 n).length ↔ 10 ^ k ≤ n := by
  rcases Nat.eq_zero_or_pos k with rfl | hk
  · exact ⟨fun _ => hn, fun _ => Nat.length_toDigits_pos⟩
  · rw [← Nat.not_le, Nat.length_toDigits_le_iff (by decide) hk, Nat.not_lt]

theorem length_toDigits_mul_pow {n : Nat} (hn : 0 < n) (k : Nat) :
    (Nat.toDigits 10 (n * 10 ^ k)).length = (Nat.toDigits 10 n).length + k := by
  have hpos : 0 < n * 10 ^ k := Nat.mul_pos hn (Nat.pow_pos (by decide))
  have hlen : 0 < (Nat.toDigits 10 n).length := Nat.length_toDigits_pos
  apply Nat.le_antisymm
  · rw [Nat.length_toDigits_le_iff (by decide) (by omega), Nat.pow_add]
    exact Nat.mul_lt_mul_of_pos_right (lt_pow_length_toDigits n) (Nat.pow_pos (by decide))
  · have hlow : 10 ^ ((Nat.toDigits 10 n).length - 1 + k) ≤ n * 10 ^ k := by
      rw [Nat.pow_add]
      exact Nat.mul_le_mul_right _ (pow_length_toDigits_le hn)
    have := (lt_length_toDigits_iff hpos).2 hlow
    omega

namespace Binary64

/-! ## Numbers that are close to an exact value -/

/-- A number has 53 bits at most, and zeros behind them only if it has all of them. -/
theorem Fits.exists_eq {n : Nat} (h : Fits n) :
    ∃ c k, n = c * 2 ^ k ∧ c < 2 ^ 53 ∧ (k = 0 ∨ 2 ^ 52 ≤ c) := by
  obtain ⟨c, hc⟩ := h
  rw [spacing, Nat.pow_eq] at hc
  have hlt : n < 2 ^ (n.log2 + 1) := Nat.lt_log2_self
  refine ⟨c, n.log2 - 52, by rw [Nat.mul_comm]; exact hc, ?_, ?_⟩
  · refine Nat.lt_of_mul_lt_mul_left (a := 2 ^ (n.log2 - 52)) ?_
    calc 2 ^ (n.log2 - 52) * c = n := hc.symm
      _ < 2 ^ (n.log2 + 1) := hlt
      _ ≤ 2 ^ (n.log2 - 52 + 53) := Nat.pow_le_pow_right (by decide) (by omega)
      _ = 2 ^ (n.log2 - 52) * 2 ^ 53 := Nat.pow_add 2 _ _
  · rcases Nat.eq_zero_or_pos (n.log2 - 52) with hk | hk
    · exact .inl hk
    · refine .inr (Nat.le_of_mul_le_mul_left ?_ (Nat.two_pow_pos (n.log2 - 52)))
      have hne : n ≠ 0 := by
        rintro rfl
        exact absurd hk (by decide)
      calc 2 ^ (n.log2 - 52) * 2 ^ 52 = 2 ^ n.log2 := by
            rw [← Nat.pow_add, Nat.sub_add_cancel (by omega)]
        _ ≤ n := Nat.log2_self_le hne
        _ = 2 ^ (n.log2 - 52) * c := hc

/-- A quotient `num / den` is less than a part in 2 to the power of 54 away from `n`. -/
structure Close (n num den : Nat) : Prop where
  lower : 2 ^ 54 * (n * den) < 2 ^ 54 * num + n * den
  upper : 2 ^ 54 * num < 2 ^ 54 * (n * den) + n * den

theorem nearest_of_lt {num den : Nat} (h : num < 2 ^ 53 * den) :
    nearest num den = roundDiv num den := by
  have hq : num / den < 2 ^ 53 := Nat.div_lt_of_lt_mul (by rwa [Nat.mul_comm])
  have hlog : (num / den).log2 - 52 = 0 := by
    by_cases hne : num / den = 0
    · rw [hne]
      rfl
    · have := (Nat.log2_lt hne).2 hq
      omega
  simp only [nearest, spacing, hlog]
  simp

/-- What is close to a number is rounded to it. -/
theorem nearest_of_close {n num den : Nat} (hn : Fits n) (hden : 0 < den) (h : Close n num den) :
    nearest num den = n := by
  obtain ⟨c, k, rfl, hc, hk⟩ := hn.exists_eq
  -- in units of the spacing, `c` is the number and `num / D` the quotient
  obtain ⟨D, hD⟩ : ∃ D, D = den * 2 ^ k := ⟨_, rfl⟩
  have hpos : 0 < D := by rw [hD]; exact Nat.mul_pos hden (Nat.two_pow_pos k)
  have hscale : c * 2 ^ k * den = c * D := by rw [hD]; ring
  obtain ⟨hlower, hupper⟩ := h
  rw [hscale] at hlower hupper
  have hcD : c * D ≤ (2 ^ 53 - 1) * D := Nat.mul_le_mul_right D (by omega)
  have hround : roundDiv num D = c := roundDiv_eq_of_near (by omega) (by omega)
  have hhigh : num < 2 ^ 53 * D := by omega
  rcases Nat.eq_zero_or_pos k with rfl | hkpos
  · rw [Nat.pow_zero, Nat.mul_one] at hD ⊢
    rw [hD] at hround hhigh
    rw [nearest_of_lt hhigh, hround]
  have hc52 : 2 ^ 52 ≤ c := hk.resolve_left (by omega)
  by_cases hlow : 2 ^ 52 * D ≤ num
  · rw [nearest_eq (k := k) hden, ← hD, hround]
    · calc 2 ^ (52 + k) * den = 2 ^ 52 * D := by rw [hD]; ring
        _ ≤ num := hlow
    · calc num < 2 ^ 53 * D := hhigh
        _ = 2 ^ (53 + k) * den := by rw [hD]; ring
  · -- the quotient is below a power of two, where numbers are twice as dense
    have hceq : c = 2 ^ 52 := by
      refine Nat.le_antisymm (Nat.le_of_not_lt fun hlt => ?_) hc52
      have := Nat.mul_le_mul_right D (Nat.succ_le_of_lt hlt)
      omega
    obtain ⟨i, rfl⟩ : ∃ i, k = i + 1 := ⟨k - 1, by omega⟩
    obtain ⟨E, hE⟩ : ∃ E, E = den * 2 ^ i := ⟨_, rfl⟩
    have hDE : D = 2 * E := by rw [hD, hE]; ring
    have hdense : roundDiv num E = 2 ^ 53 := by
      subst hceq hDE
      exact roundDiv_eq_of_near (by omega) (by omega)
    rw [nearest_eq (k := i) hden, ← hE, hdense, hceq]
    · ring
    · calc 2 ^ (52 + i) * den = 2 ^ 52 * E := by rw [hE]; ring
        _ ≤ num := by
          subst hceq hDE
          omega
    · calc num < 2 ^ 52 * D := Nat.lt_of_not_le hlow
        _ = 2 ^ (53 + i) * den := by rw [hD]; ring

/-! ## Decimals -/

/-- A number is rounded by its value: a fraction may be written in any way. -/
theorem round_eq_of_ratio (s : Bool) {num den num' den' : Nat} (hden : 0 < den) (hden' : 0 < den')
    (h : num * den' = num' * den) : round s num den = round s num' den' := by
  rw [← round_mul_mul_right s num den hden', h, Nat.mul_comm den den',
    round_mul_mul_right s num' den' hden]

variable (s : Bool) {digits : Nat} {exponent : Int}

/-- A decimal of a size that a number can have is rounded. -/
theorem ofScientific_eq_round (hdigits : 0 < digits)
    (hlow : -330 ≤ Scientific.point ⟨digits, exponent⟩)
    (hhigh : Scientific.point ⟨digits, exponent⟩ ≤ 310) :
    ofScientific s digits exponent =
      round s (digits * 10 ^ exponent.toNat * unit) (10 ^ (-exponent).toNat) := by
  simp only [Scientific.point] at hlow hhigh
  have hfirst : ¬ (digits = 0 ∨ (Nat.toDigits 10 digits).length + exponent < -330) := by omega
  have hsecond : ¬ 310 < (Nat.toDigits 10 digits).length + exponent := by omega
  simp only [ofScientific, Bool.or_eq_true, decide_eq_true_eq, hfirst, hsecond, if_false]
  split
  next hexp =>
    have hzero : (-exponent).toNat = 0 := by omega
    rw [hzero]
    rfl
  next hexp =>
    have hzero : exponent.toNat = 0 := by omega
    rw [hzero, Nat.pow_zero, Nat.mul_one]
    rfl

theorem ofScientific_zero (exponent : Int) :
    ofScientific s 0 exponent = finite s 0 := by
  simp [ofScientific]

/-- Zeros at the end of the digits may as well be counted in the exponent. -/
theorem ofScientific_mul_pow (digits k : Nat) (exponent : Int) :
    ofScientific s (digits * 10 ^ k) exponent = ofScientific s digits (exponent + k) := by
  rcases Nat.eq_zero_or_pos digits with rfl | hdigits
  · rw [Nat.zero_mul, ofScientific_zero, ofScientific_zero]
  have hpos : 0 < digits * 10 ^ k := Nat.mul_pos hdigits (Nat.pow_pos (by decide))
  obtain ⟨p, hp⟩ : ∃ p, p = Scientific.point ⟨digits, exponent + k⟩ := ⟨_, rfl⟩
  have hpoint : Scientific.point ⟨digits * 10 ^ k, exponent⟩ = p := by
    simp only [hp, Scientific.point, length_toDigits_mul_pow hdigits]
    omega
  by_cases hin : -330 ≤ p ∧ p ≤ 310
  · rw [ofScientific_eq_round s hpos (by omega) (by omega),
      ofScientific_eq_round s hdigits (by omega) (by omega)]
    refine round_eq_of_ratio s (Nat.pow_pos (by decide)) (Nat.pow_pos (by decide)) ?_
    have hexp : k + exponent.toNat + (-(exponent + k)).toNat =
        (exponent + k).toNat + (-exponent).toNat := by omega
    calc digits * 10 ^ k * 10 ^ exponent.toNat * unit * 10 ^ (-(exponent + k)).toNat
        = digits * unit * 10 ^ (k + exponent.toNat + (-(exponent + k)).toNat) := by ring
      _ = digits * 10 ^ (exponent + k).toNat * unit * 10 ^ (-exponent).toNat := by
          rw [hexp]
          ring
  · simp only [Scientific.point] at hp hpoint
    have hlow : (Nat.toDigits 10 (digits * 10 ^ k)).length + exponent < -330 ↔
        (Nat.toDigits 10 digits).length + (exponent + k) < -330 := by omega
    have hhigh : 310 < (Nat.toDigits 10 (digits * 10 ^ k)).length + exponent ↔
        310 < (Nat.toDigits 10 digits).length + (exponent + k) := by omega
    simp only [ofScientific, Bool.or_eq_true, decide_eq_true_eq, hlow, hhigh, hpos.ne',
      hdigits.ne', false_or]
    split
    · rfl
    · rw [if_pos (by omega), if_pos (by omega)]

/-- The sign of a decimal is the sign of the number. -/
theorem ofScientific_eq_finite {n : Nat}
    (h : ofScientific false digits exponent = finite false n) :
    ofScientific s digits exponent = finite s n := by
  have hround : ∀ num den, round false num den = finite false n → round s num den = finite s n := by
    intro num den h
    unfold round at h ⊢
    dsimp only at h ⊢
    split at h
    next hlt =>
      cases h
      rw [if_pos hlt]
    · cases h
  unfold ofScientific at h ⊢
  dsimp only at h ⊢
  split at h
  next hzero =>
    cases h
    rw [if_pos hzero]
  next hzero =>
    rw [if_neg hzero]
    split at h
    · cases h
    next hhigh =>
      rw [if_neg hhigh]
      split at h
      next hexp =>
        rw [if_pos hexp]
        exact hround _ _ h
      next hexp =>
        rw [if_neg hexp]
        exact hround _ _ h

/-- The sizes of numbers: those with 53 significant bits that are not too large. -/
structure Held (n : Nat) : Prop where
  fits : Fits n
  lt_limit : n < limit

/-- Whether a number is one: of a size that numbers have, if it has a size. -/
def WellFormed : Binary64 → Prop
  | finite _ n => Held n
  | _ => True

/-- A decimal that is close to a number becomes that number. -/
theorem ofScientific_of_close {n : Nat} (hn : Held n) (hdigits : 0 < digits)
    (hlow : -330 ≤ Scientific.point ⟨digits, exponent⟩)
    (hhigh : Scientific.point ⟨digits, exponent⟩ ≤ 310)
    (hclose : Close n (digits * 10 ^ exponent.toNat * unit) (10 ^ (-exponent).toNat)) :
    ofScientific false digits exponent = finite false n := by
  have hnearest := nearest_of_close hn.fits (Nat.pow_pos (by decide)) hclose
  rw [ofScientific_eq_round false hdigits hlow hhigh, round_of_lt, hnearest]
  rw [hnearest]
  exact hn.lt_limit

end Binary64

end ProxyMaps.Decimal
