/-
The shortest decimal of a number reads back as the number (`ofScientific_digits`).
The search for it finds one at 17 digits at the latest: numbers have 53 bits, and
on a grid of 17 digits the decimal that is nearer to a number is closer to it than
a part in 2 to the power of 54 (`close_of_near`).
-/
import ProxyMaps.Proofs.Decimal.Scientific

namespace ProxyMaps.Decimal

open Binary64

/-- A decimal without zeros at its end is the same number. -/
theorem Scientific.ofScientific_trimZeros (s : Bool) (fuel : Nat) (d : Scientific) :
    ofScientific s (d.trimZeros fuel).digits (d.trimZeros fuel).exponent =
      ofScientific s d.digits d.exponent := by
  induction fuel generalizing d with
  | zero => rfl
  | succ fuel ih =>
    rw [trimZeros]
    split
    next hzero =>
      simp only [Bool.and_eq_true, decide_eq_true_eq] at hzero
      have hdigits : d.digits = d.digits / 10 * 10 ^ 1 := by omega
      rw [ih]
      conv_rhs => rw [hdigits, ofScientific_mul_pow]
      rfl
    · rfl

namespace Shortest

/-! ## The search -/

theorem readsBack_iff {n : Nat} {d : Scientific} :
    readsBack n d = true ↔ ofScientific false d.digits d.exponent = .finite false n := by
  rw [readsBack, beq_iff_eq]

theorem readsBack_of_search {n : Nat} {lead : Int} {d : Scientific} {fuel count : Nat}
    (h : search n lead count fuel = some d) : readsBack n d = true := by
  induction fuel generalizing count with
  | zero => cases h
  | succ fuel ih =>
    rw [search, Option.or_eq_some_iff] at h
    rcases h with h | ⟨-, h⟩
    · exact List.find?_some h
    · exact ih h

/-- The search finds something if there is something to be found at one of the counts it tries. -/
theorem search_isSome {n : Nat} {lead : Int} {d : Scientific} {fuel count more : Nat}
    (hmore : more < fuel) (hd : d ∈ neighbours n (lead - ↑(count + more) + 1))
    (h : readsBack n d = true) : (search n lead count fuel).isSome = true := by
  induction fuel generalizing count more with
  | zero => omega
  | succ fuel ih =>
    rw [search, Option.isSome_or, Bool.or_eq_true]
    cases more with
    | zero => exact .inl (List.find?_isSome.2 ⟨d, hd, h⟩)
    | succ more =>
      have hcount : count + 1 + more = count + (more + 1) := by omega
      rw [← hcount] at hd
      exact .inr (ih (Nat.lt_of_succ_lt_succ hmore) hd)

/-! ## The grid of 17 digits -/

theorem scale_eq (n : Nat) (place : Int) :
    scale n place = (n * 10 ^ (-place).toNat, unit * 10 ^ place.toNat) := by
  unfold scale
  split
  next hplace =>
    have hzero : (-place).toNat = 0 := by omega
    rw [hzero, Nat.pow_zero, Nat.mul_one]
    rfl
  next hplace =>
    have hzero : place.toNat = 0 := by omega
    rw [hzero, Nat.pow_zero, Nat.mul_one]
    rfl

/-- One of the neighbours is half a step away at most. -/
theorem exists_near_neighbour (n : Nat) (place : Int) :
    ∃ m, (⟨m, place⟩ : Scientific) ∈ neighbours n place ∧
      2 * (n * 10 ^ (-place).toNat) ≤
        2 * (m * (unit * 10 ^ place.toNat)) + unit * 10 ^ place.toNat ∧
      2 * (m * (unit * 10 ^ place.toNat)) ≤
        2 * (n * 10 ^ (-place).toNat) + unit * 10 ^ place.toNat := by
  have hden : 0 < unit * 10 ^ place.toNat := Nat.mul_pos unit_pos (Nat.pow_pos (by decide))
  obtain ⟨hlow, hhigh⟩ := roundDiv_near (n * 10 ^ (-place).toNat) hden
  refine ⟨roundDiv (n * 10 ^ (-place).toNat) (unit * 10 ^ place.toNat), ?_, hlow, hhigh⟩
  simp only [neighbours, scale_eq]
  rcases roundDiv_cases (n * 10 ^ (-place).toNat) (unit * 10 ^ place.toNat) with ⟨h, -⟩ | ⟨h, -⟩
  · rw [h]
    split <;> simp
  · rw [h]
    split <;> simp

/-- A decimal half a step away from a number of more than `10 ^ 16` steps is close to it. -/
theorem close_of_near {n m : Nat} {place : Int}
    (hsteps : 10 ^ 16 * (unit * 10 ^ place.toNat) ≤ n * 10 ^ (-place).toNat)
    (hlow : 2 * (n * 10 ^ (-place).toNat) ≤
      2 * (m * (unit * 10 ^ place.toNat)) + unit * 10 ^ place.toNat)
    (hhigh : 2 * (m * (unit * 10 ^ place.toNat)) ≤
      2 * (n * 10 ^ (-place).toNat) + unit * 10 ^ place.toNat) :
    Close n (m * 10 ^ place.toNat * unit) (10 ^ (-place).toNat) := by
  have hstep : 0 < unit * 10 ^ place.toNat := Nat.mul_pos unit_pos (Nat.pow_pos (by decide))
  have hvalue : m * 10 ^ place.toNat * unit = m * (unit * 10 ^ place.toNat) := by
    rw [Nat.mul_assoc, Nat.mul_comm (10 ^ place.toNat)]
  rw [← hvalue] at hlow hhigh
  constructor <;> omega

/-! ## The place of the first digit -/

variable {n : Nat}

/--
A number lies between the powers of ten that the place of its first digit says.
The number is moved `l` places to the left, so that this is a place before the
point.
-/
theorem exists_leadingPlace_eq (hn : 0 < n) (hlimit : n < limit) :
    ∃ l w : Nat, leadingPlace n = w - l ∧ 10 ^ w * unit ≤ n * 10 ^ l ∧
      n * 10 ^ l < 10 ^ (w + 1) * unit ∧ l ≤ w + 331 ∧ w ≤ l + 308 := by
  have hleast : unit * 10 ^ 69 ≤ Nat.pow 10 400 := by decide +kernel
  have hgreatest : limit ≤ Nat.pow 10 309 * unit := by decide +kernel
  have hlead : leadingPlace n =
      (Nat.toDigits 10 (n * Nat.pow 10 400 / unit)).length - (400 + 1 : Nat) := rfl
  -- the exponents are named, since the powers are too large to be computed
  generalize hl : 400 = l at hleast hlead
  generalize hk : 309 = k at hgreatest
  rw [Nat.pow_eq] at hleast hgreatest hlead
  obtain ⟨q, hq⟩ : ∃ q, q = n * 10 ^ l / unit := ⟨_, rfl⟩
  rw [← hq] at hlead
  have hlow : 10 ^ 69 ≤ q := by
    rw [hq, Nat.le_div_iff_mul_le unit_pos, Nat.mul_comm]
    exact Nat.le_trans hleast (Nat.le_mul_of_pos_left _ hn)
  have hhigh : q < 10 ^ (l + k) := by
    rw [hq, Nat.div_lt_iff_lt_mul unit_pos]
    calc n * 10 ^ l < limit * 10 ^ l :=
          Nat.mul_lt_mul_of_pos_right hlimit (Nat.pow_pos (by decide))
      _ ≤ 10 ^ k * unit * 10 ^ l := Nat.mul_le_mul_right _ hgreatest
      _ = 10 ^ (l + k) * unit := by rw [Nat.pow_add]; ring
  have hpos : 0 < q := by omega
  have hmore : 69 < (Nat.toDigits 10 q).length := (lt_length_toDigits_iff hpos).2 hlow
  have hless : (Nat.toDigits 10 q).length ≤ l + k :=
    (Nat.length_toDigits_le_iff (by decide) (by omega)).2 hhigh
  refine ⟨l, (Nat.toDigits 10 q).length - 1, by omega, ?_, ?_, by omega, by omega⟩
  · refine (Nat.le_div_iff_mul_le unit_pos).1 ?_
    rw [← hq]
    exact pow_length_toDigits_le hpos
  · refine (Nat.div_lt_iff_lt_mul unit_pos).1 ?_
    rw [← hq, Nat.sub_add_cancel Nat.length_toDigits_pos]
    exact lt_pow_length_toDigits q

/-- A number has between `10 ^ 16` and `10 ^ 17` steps of the last of 17 places. -/
theorem steps_bounds {l w : Nat} {place : Int} (hplace : place + 16 = w - l)
    (hlow : 10 ^ w * unit ≤ n * 10 ^ l) (hhigh : n * 10 ^ l < 10 ^ (w + 1) * unit) :
    10 ^ 16 * (unit * 10 ^ place.toNat) ≤ n * 10 ^ (-place).toNat ∧
      n * 10 ^ (-place).toNat < 10 ^ 17 * (unit * 10 ^ place.toNat) := by
  obtain ⟨p, hp⟩ : ∃ p, place.toNat = p := ⟨_, rfl⟩
  obtain ⟨q, hq⟩ : ∃ q, (-place).toNat = q := ⟨_, rfl⟩
  have hplaces : q + w = l + (16 + p) := by omega
  rw [hp, hq]
  have hscaled : n * 10 ^ q * 10 ^ w = n * 10 ^ l * 10 ^ (16 + p) := by
    rw [Nat.mul_assoc, ← Nat.pow_add, hplaces, Nat.pow_add, ← Nat.mul_assoc]
  constructor
  · refine Nat.le_of_mul_le_mul_right ?_ (Nat.pow_pos (n := w) (by decide : 0 < 10))
    calc 10 ^ 16 * (unit * 10 ^ p) * 10 ^ w = 10 ^ w * unit * 10 ^ (16 + p) := by ring
      _ ≤ n * 10 ^ l * 10 ^ (16 + p) := Nat.mul_le_mul_right _ hlow
      _ = n * 10 ^ q * 10 ^ w := hscaled.symm
  · refine Nat.lt_of_mul_lt_mul_right (a := 10 ^ w) ?_
    calc n * 10 ^ q * 10 ^ w = n * 10 ^ l * 10 ^ (16 + p) := hscaled
      _ < 10 ^ (w + 1) * unit * 10 ^ (16 + p) :=
          Nat.mul_lt_mul_of_pos_right hhigh (Nat.pow_pos (by decide))
      _ = 10 ^ 17 * (unit * 10 ^ p) * 10 ^ w := by ring

/-! ## The decimal that is found -/

/-- One of the neighbours of a number on the grid of 17 digits reads back. -/
theorem exists_readsBack (hn : Held n) (hpos : 0 < n) :
    ∃ d ∈ neighbours n (leadingPlace n - (17 : Nat) + 1), readsBack n d = true := by
  obtain ⟨l, w, hlead, hleast, hgreatest, hl, hw⟩ := exists_leadingPlace_eq hpos hn.lt_limit
  obtain ⟨place, hplace⟩ : ∃ place, place = leadingPlace n - (17 : Nat) + 1 := ⟨_, rfl⟩
  rw [← hplace]
  have hplaces : place + 16 = w - l := by omega
  obtain ⟨hsteps, hfew⟩ := steps_bounds hplaces hleast hgreatest
  obtain ⟨m, hm, hlow, hhigh⟩ := exists_near_neighbour n place
  have hclose := close_of_near hsteps hlow hhigh
  have hunit : 0 < unit * 10 ^ place.toNat := Nat.mul_pos unit_pos (Nat.pow_pos (by decide))
  have hm16 : 10 ^ 16 ≤ m := by
    refine Nat.le_of_not_lt fun hlt => ?_
    have := Nat.mul_le_mul_right (unit * 10 ^ place.toNat) (Nat.succ_le_of_lt hlt)
    rw [Nat.succ_mul] at this
    omega
  have hm18 : m < 10 ^ 18 := by
    refine Nat.lt_of_not_le fun hle => ?_
    have := Nat.mul_le_mul_right (unit * 10 ^ place.toNat) hle
    omega
  have hlen16 : 16 < (Nat.toDigits 10 m).length := (lt_length_toDigits_iff (by omega)).2 hm16
  have hlen18 : (Nat.toDigits 10 m).length ≤ 18 :=
    (Nat.length_toDigits_le_iff (by decide) (by decide)).2 hm18
  have hpoint : Scientific.point ⟨m, place⟩ = (Nat.toDigits 10 m).length + place := rfl
  have hback : ofScientific false m place = .finite false n :=
    ofScientific_of_close hn (by omega) (by omega) (by omega) hclose
  exact ⟨⟨m, place⟩, hm, readsBack_iff.2 hback⟩

theorem exists_found (hn : Held n) (hpos : 0 < n) :
    ∃ d, search n (leadingPlace n) 1 17 = some d ∧ readsBack n d = true := by
  obtain ⟨d, hd, hback⟩ := exists_readsBack hn hpos
  have hsome : (search n (leadingPlace n) 1 17).isSome = true :=
    search_isSome (by decide : 16 < 17) hd hback
  obtain ⟨found, hfound⟩ := Option.isSome_iff_exists.1 hsome
  exact ⟨found, hfound, readsBack_of_search hfound⟩

/-- The shortest decimal of a number reads back as the number. -/
theorem ofScientific_digits (hn : Held n) (s : Bool) :
    ofScientific s (digits n).digits (digits n).exponent = .finite s n := by
  rcases Nat.eq_zero_or_pos n with rfl | hpos
  · exact ofScientific_zero s 0
  · obtain ⟨d, hd, hback⟩ := exists_found hn hpos
    have hdigits : digits n = d.trimZeros 400 := by
      simp only [digits, if_neg hpos.ne', hd, Option.getD_some]
    rw [hdigits, Scientific.ofScientific_trimZeros]
    exact ofScientific_eq_finite s (readsBack_iff.1 hback)

end Shortest

end ProxyMaps.Decimal
