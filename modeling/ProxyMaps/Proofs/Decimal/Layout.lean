/-
Numbers written as text read back as the numbers that they are, in every layout
(`read?_render`). So numbers that are written alike are one number
(`render_inj`).
-/
import ProxyMaps.Decimal.Real
import ProxyMaps.Proofs.Decimal.Numeral
import ProxyMaps.Proofs.Decimal.Shortest
import ProxyMaps.Proofs.Lists

namespace ProxyMaps.Decimal

open Binary64

namespace Real

/-! ## Reading digits -/

theorem isSome_digitValue? {c : Char} (h : c.isDigit = true) :
    (Text.digitValue? c).isSome = true := by
  rw [Text.digitValue?, if_pos h]
  rfl

/-- Digits are read up to what is none. -/
theorem digits_append {ds rest : List Char} (hds : ∀ c ∈ ds, c.isDigit = true)
    (hrest : ∀ c ∈ rest.head?, (Text.digitValue? c).isSome = false) :
    digits (ds ++ rest) = (ds.map fun c => c.toNat - 0x30, rest) := by
  have hsome : ∀ c ∈ ds, (Text.digitValue? c).isSome = true := fun c hc =>
    isSome_digitValue? (hds c hc)
  have hvalues : ds.filterMap Text.digitValue? = ds.map fun c => c.toNat - 0x30 := by
    clear hsome
    induction ds with
    | nil => rfl
    | cons c ds ih =>
      have hc : Text.digitValue? c = some (c.toNat - 0x30) := if_pos (hds c List.mem_cons_self)
      rw [List.filterMap_cons_some hc, ih fun d hd => hds d (List.mem_cons_of_mem c hd),
        List.map_cons]
  simp only [digits]
  rw [List.takeWhile_append_stop hsome hrest, List.dropWhile_append_stop hsome hrest, hvalues]

theorem ofDigits_map (ds : List Char) :
    Integer.ofDigits 10 (ds.map fun c => c.toNat - 0x30) = Nat.ofDigitChars 10 ds 0 := by
  rw [Integer.ofDigits, List.foldl_map, foldl_eq_ofDigitChars]

/-! ## Reading a number part by part -/

section Parts

variable {frac part tail : List Char} {e : Int} {c : Char}

/-- What stands behind the whole digits: a point and more digits, or nothing. -/
inductive WritesPart : List Char → List Char → Prop
  | point {part : List Char} (h : ∀ c ∈ part, c.isDigit = true) : WritesPart ('.' :: part) part
  | none : WritesPart [] []

/-- What stands at the end: nothing, or a letter, a sign and digits. -/
structure WritesExponent (tail : List Char) (e : Int) : Prop where
  exponent? : exponent? tail = some e
  isEdge : ∀ c ∈ tail, Integer.isEdge c = false

theorem WritesExponent.none : WritesExponent [] 0 := ⟨rfl, by simp⟩

theorem WritesExponent.head? (h : WritesExponent tail e) :
    ∀ c ∈ tail.head?, c = 'e' ∨ c = 'E' := by
  have hsome := h.exponent?
  cases tail with
  | nil => simp
  | cons c tail =>
    simp only [List.head?_cons, Option.mem_some_iff, forall_eq']
    by_contra hne
    simp only [Real.exponent?, decide_eq_true_eq, Bool.or_eq_true, if_neg hne] at hsome
    cases hsome

theorem WritesExponent.not_digit (h : WritesExponent tail e) :
    ∀ c ∈ tail.head?, (Text.digitValue? c).isSome = false := by
  intro c hc
  rcases h.head? c hc with rfl | rfl
  · decide
  · decide

theorem WritesPart.not_digit (h : WritesPart frac part) (htail : WritesExponent tail e) :
    ∀ c ∈ (frac ++ tail).head?, (Text.digitValue? c).isSome = false := by
  cases h with
  | point h =>
    intro c hc
    cases hc
    decide
  | none => exact htail.not_digit

theorem WritesPart.fraction (h : WritesPart frac part) (htail : WritesExponent tail e) :
    fraction (frac ++ tail) = (part.map fun c => c.toNat - 0x30, tail) := by
  cases h with
  | point h => exact digits_append h htail.not_digit
  | none =>
    have hhead := htail.head?
    cases tail with
    | nil => rfl
    | cons c tail =>
      rcases hhead c rfl with rfl | rfl
      · rfl
      · rfl

theorem WritesPart.isEdge (h : WritesPart frac part) :
    ∀ c ∈ frac, Integer.isEdge c = false := by
  cases h with
  | point h =>
    intro c hc
    rcases List.mem_cons.1 hc with rfl | hc
    · decide
    · exact Integer.isEdge_of_isDigit (h c hc)
  | none => simp

theorem trimEdges_eq_self {s : List Char} (h : ∀ c ∈ s, Integer.isEdge c = false) :
    trimEdges s = s := by
  have hdrop : ∀ t : List Char, (∀ c ∈ t, Integer.isEdge c = false) →
      t.dropWhile Integer.isEdge = t := by
    intro t ht
    cases t with
    | nil => rfl
    | cons c t => rw [List.dropWhile_cons_of_neg (by simp [ht c List.mem_cons_self])]
  rw [trimEdges, hdrop s h, hdrop s.reverse (by simpa using h), List.reverse_reverse]

/-- A text that begins with a digit has no sign. -/
theorem cutSign_of_isDigit (h : c.isDigit = true) (s : List Char) :
    Integer.cutSign (c :: s) = (false, c :: s) := by
  unfold Integer.cutSign
  split
  next hs =>
    cases hs
    cases h
  next hs =>
    cases hs
    cases h
  · rfl

/-- A text that begins with a digit is not the name of a number. -/
theorem not_name_of_isDigit (h : c.isDigit = true) (s : List Char) :
    infiniteNames.contains ((c :: s).map Char.toLower) = false ∧
      (c :: s).map Char.toLower ≠ nanName := by
  have hlower : c.toLower = c := by
    have hhigh := (toNat_of_isDigit h).2
    refine dif_neg ?_
    rintro ⟨hA, -⟩
    have hA' : 65 ≤ c.toNat := hA
    omega
  have hi : c ≠ 'i' := by
    rintro rfl
    cases h
  have hn : c ≠ 'n' := by
    rintro rfl
    cases h
  rw [List.map_cons, hlower]
  simp [infiniteNames, nanName, hi, hn]

/-- A text is read as a decimal, with a sign before it or without. -/
def Reads (s : List Char) (d : Scientific) : Prop :=
  ∀ negative, read? ((if negative then ['-'] else []) ++ s) =
    some (ofScientific negative d.digits d.exponent)

/-- A number is read by its digits and its exponent. -/
theorem reads_of_parts {whole : List Char} (hwhole : IsDigits whole)
    (hfrac : WritesPart frac part) (htail : WritesExponent tail e) :
    Reads (whole ++ (frac ++ tail)) ⟨Nat.ofDigitChars 10 (whole ++ part) 0, e - part.length⟩ := by
  intro negative
  obtain ⟨body, hbody⟩ : ∃ body, body = whole ++ (frac ++ tail) := ⟨_, rfl⟩
  obtain ⟨c, rest, hcons, hc⟩ : ∃ c rest, body = c :: rest ∧ c.isDigit = true := by
    cases whole with
    | nil => exact absurd rfl hwhole.ne_nil
    | cons c whole => exact ⟨c, _, hbody, hwhole.isDigit c List.mem_cons_self⟩
  have hedges : ∀ c ∈ (if negative then ['-'] else []) ++ body, Integer.isEdge c = false := by
    intro c hc
    simp only [hbody, List.mem_append] at hc
    rcases hc with hc | hc | hc | hc
    · cases negative with
      | false => cases hc
      | true =>
        rw [List.mem_singleton.1 hc]
        decide
    · exact Integer.isEdge_of_isDigit (hwhole.isDigit c hc)
    · exact hfrac.isEdge c hc
    · exact htail.isEdge c hc
  have hcut : Integer.cutSign ((if negative then ['-'] else []) ++ body) = (negative, body) := by
    cases negative with
    | true => rfl
    | false =>
      rw [hcons]
      exact cutSign_of_isDigit hc rest
  have hdigits : digits body = (whole.map fun c => c.toNat - 0x30, frac ++ tail) := by
    rw [hbody]
    exact digits_append hwhole.isDigit (hfrac.not_digit htail)
  have hall : (whole.map fun c => c.toNat - 0x30) ++ (part.map fun c => c.toNat - 0x30) =
      (whole ++ part).map fun c => c.toNat - 0x30 := List.map_append.symm
  have hempty : ((whole ++ part).map fun c => c.toNat - 0x30).isEmpty = false := by
    simp [hwhole.ne_nil]
  obtain ⟨hname, hnan⟩ := not_name_of_isDigit hc rest
  rw [← hcons] at hname hnan
  rw [← hbody]
  simp only [read?, trimEdges_eq_self hedges, hcut, hname, if_neg hnan, hdigits,
    hfrac.fraction htail, hall, hempty, htail.exponent?, ofDigits_map]
  simp

end Parts

end Real

namespace Shortest

/-! ## Layouts -/

theorem cutSign_exponentSign {ds : List Char} (hds : IsDigits ds) (plusSign : Bool) (e : Int) :
    Integer.cutSign (exponentSign plusSign e ++ ds) = (decide (e < 0), ds) := by
  unfold exponentSign
  split
  next hneg => rw [decide_eq_true hneg]; rfl
  next hneg =>
    rw [decide_eq_false hneg]
    split
    · rfl
    · exact Integer.cutSign_of_isDigits hds

theorem isEdge_exponentSign (plusSign : Bool) (e : Int) :
    ∀ c ∈ exponentSign plusSign e, Integer.isEdge c = false := by
  unfold exponentSign
  split
  · exact List.forall_mem_singleton.mpr rfl
  split
  · exact List.forall_mem_singleton.mpr rfl
  · simp

/-- A letter, a sign and digits write an exponent. -/
theorem writesExponent_of_isDigits {ds : List Char} (hds : IsDigits ds) {e : Int}
    (hvalue : Nat.ofDigitChars 10 ds 0 = e.natAbs) (plusSign : Bool) :
    Real.WritesExponent ('e' :: exponentSign plusSign e ++ ds) e := by
  constructor
  · have hdigits : Real.digits (ds ++ []) = (_, []) := Real.digits_append hds.isDigit (by simp)
    rw [List.append_nil] at hdigits
    have hempty : (ds.map fun c => c.toNat - 0x30).isEmpty = false := by simp [hds.ne_nil]
    have he : (if e < 0 then -(e.natAbs : Int) else e.natAbs) = e := by split <;> omega
    simp only [Real.exponent?, List.cons_append, cutSign_exponentSign hds, hdigits, hempty,
      Real.ofDigits_map, hvalue, decide_eq_true_eq, he]
    rfl
  · intro c hc
    rw [List.cons_append, List.mem_cons, List.mem_append] at hc
    rcases hc with rfl | hc | hc
    · decide
    · exact isEdge_exponentSign plusSign e c hc
    · exact Integer.isEdge_of_isDigit (hds.isDigit c hc)

theorem writesExponent (plusSign : Bool) (zeros : Nat) (e : Int) :
    Real.WritesExponent ('e' :: exponentSign plusSign e ++
      (List.replicate zeros '0' ++ Nat.toDigits 10 e.natAbs)) e :=
  writesExponent_of_isDigits
    ⟨List.append_ne_nil_of_right_ne_nil _ Nat.toDigits_ne_nil,
      isDigit_append (isDigit_replicate zeros) (isDigits_toDigits _).isDigit⟩
    (ofDigitChars_replicate_append zeros e.natAbs) plusSign

section Positional

variable {ds : List Char} {n k : Nat} {point : Int}

/-- All digits stand behind the point. -/
theorem reads_behind_point (hds : IsDigits ds) (hn : Nat.ofDigitChars 10 ds 0 = n)
    (hpoint : point ≤ 0) : Real.Reads (positional ds point) ⟨n, point - ds.length⟩ := by
  intro negative
  obtain ⟨k, hk⟩ : ∃ k, k = (-point).toNat := ⟨_, rfl⟩
  have htext : positional ds point = ['0'] ++ ('.' :: (List.replicate k '0' ++ ds) ++ []) := by
    rw [positional, if_pos hpoint, hk]
    simp
  have hpart : ∀ c ∈ List.replicate k '0' ++ ds, c.isDigit = true :=
    isDigit_append (isDigit_replicate k) hds.isDigit
  have hnumber : Nat.ofDigitChars 10 (['0'] ++ (List.replicate k '0' ++ ds)) 0 = n := by
    have hzeros : ['0'] ++ (List.replicate k '0' ++ ds) = List.replicate (k + 1) '0' ++ ds := by
      rw [List.replicate_succ]
      rfl
    rw [hzeros, Nat.ofDigitChars_append, Nat.ofDigitChars_replicate_zero, Nat.mul_zero, hn]
  have hexponent : (0 : Int) - (List.replicate k '0' ++ ds).length = point - ds.length := by
    rw [List.length_append, List.length_replicate]
    omega
  rw [htext, Real.reads_of_parts ⟨by simp, by simp⟩ (.point hpart) .none, hnumber, hexponent]

/-- Zeros fill up the digits before the point. -/
theorem reads_before_point (hds : IsDigits ds) (hn : Nat.ofDigitChars 10 ds 0 = n)
    (hpoint : ¬ (k : Int) ≤ 0) (hlen : ds.length ≤ k) :
    Real.Reads (positional ds k) ⟨n, k - ds.length⟩ := by
  intro negative
  have htext : positional ds k =
      ds ++ List.replicate (k - ds.length) '0' ++ ('.' :: ['0'] ++ []) := by
    rw [positional, if_neg hpoint]
    simp [hlen]
  have hwhole : IsDigits (ds ++ List.replicate (k - ds.length) '0') :=
    ⟨List.append_ne_nil_of_left_ne_nil hds.ne_nil _,
      isDigit_append hds.isDigit (isDigit_replicate _)⟩
  have hnumber : Nat.ofDigitChars 10 (ds ++ List.replicate (k - ds.length) '0' ++ ['0']) 0 =
      n * 10 ^ (k - ds.length + 1) := by
    rw [Nat.ofDigitChars_append, Nat.ofDigitChars_append, hn,
      Nat.ofDigitChars_replicate_zero, Nat.ofDigitChars_cons, Nat.ofDigitChars_nil, Nat.pow_succ]
    simp only [Nat.sub_self, Nat.add_zero]
    ring
  have hexponent :
      (0 : Int) - ['0'].length + (k - ds.length + 1 : Nat) = k - ds.length := by
    rw [List.length_singleton]
    omega
  rw [htext, Real.reads_of_parts hwhole (.point (by simp)) .none, hnumber,
    ofScientific_mul_pow, hexponent]

/-- The point stands among the digits. -/
theorem reads_around_point (hds : IsDigits ds) (hn : Nat.ofDigitChars 10 ds 0 = n)
    (hpoint : ¬ (k : Int) ≤ 0) (hlen : ¬ ds.length ≤ k) :
    Real.Reads (positional ds k) ⟨n, k - ds.length⟩ := by
  intro negative
  have htext : positional ds k = ds.take k ++ ('.' :: ds.drop k ++ []) := by
    rw [positional, if_neg hpoint]
    simp [hlen]
  have hwhole : IsDigits (ds.take k) :=
    ⟨by simp [hds.ne_nil]; omega, fun c hc => hds.isDigit c (List.mem_of_mem_take hc)⟩
  have hpart : ∀ c ∈ ds.drop k, c.isDigit = true := fun c hc =>
    hds.isDigit c (List.mem_of_mem_drop hc)
  have hexponent : (0 : Int) - (ds.drop k).length = k - ds.length := by
    rw [List.length_drop]
    omega
  rw [htext, Real.reads_of_parts hwhole (.point hpart) .none, List.take_append_drop, hn, hexponent]

end Positional

section

variable (n : Nat)

/-- Digits laid out around a point are read with the exponent that the point gives them. -/
theorem reads_positional (point : Int) :
    Real.Reads (positional (Nat.toDigits 10 n) point)
      ⟨n, point - (Nat.toDigits 10 n).length⟩ := by
  have hds : IsDigits (Nat.toDigits 10 n) := isDigits_toDigits n
  have hn : Nat.ofDigitChars 10 (Nat.toDigits 10 n) 0 = n := Nat.ofDigitChars_ten_toDigits
  by_cases hpoint : point ≤ 0
  · exact reads_behind_point hds hn hpoint
  obtain ⟨k, rfl⟩ : ∃ k : Nat, point = k := ⟨point.toNat, by omega⟩
  by_cases hlen : (Nat.toDigits 10 n).length ≤ k
  · exact reads_before_point hds hn hpoint hlen
  · exact reads_around_point hds hn hpoint hlen

/-- Digits with an exponent are read with what the digits behind the point leave of it. -/
theorem reads_exponential (style : Style) (e : Int) :
    Real.Reads (exponential style (Nat.toDigits 10 n) e)
      ⟨n, e + 1 - (Nat.toDigits 10 n).length⟩ := by
  intro negative
  obtain ⟨ds, hds⟩ : ∃ ds, ds = Nat.toDigits 10 n := ⟨_, rfl⟩
  have hdigits : IsDigits ds := hds ▸ isDigits_toDigits n
  have hvalue : Nat.ofDigitChars 10 ds 0 = n := hds ▸ Nat.ofDigitChars_ten_toDigits
  have hpos : ds.length ≠ 0 := fun h => hdigits.ne_nil (List.length_eq_zero_iff.1 h)
  have htail := writesExponent style.plusSign
    (style.exponentWidth - (Nat.toDigits 10 e.natAbs).length) e
  rw [← hds]
  by_cases hlen : ds.length ≤ 1
  · have hexponent : e - ([] : List Char).length = e + 1 - ds.length := by
      rw [List.length_nil]
      omega
    have hread := Real.reads_of_parts hdigits .none htail negative
    simp only [List.nil_append, List.append_nil, hvalue, hexponent] at hread
    simpa [exponential, hlen] using hread
  · have hwhole : IsDigits (ds.take 1) :=
      ⟨by simp [hdigits.ne_nil], fun c hc => hdigits.isDigit c (List.mem_of_mem_take hc)⟩
    have hpart : ∀ c ∈ ds.drop 1, c.isDigit = true := fun c hc =>
      hdigits.isDigit c (List.mem_of_mem_drop hc)
    have hexponent : e - (ds.drop 1).length = e + 1 - ds.length := by
      rw [List.length_drop]
      omega
    have hread := Real.reads_of_parts hwhole (.point hpart) htail negative
    rw [List.take_append_drop, hvalue, hexponent] at hread
    simpa [exponential, hlen] using hread

end

/-- The text of a finite number: its sign, and its digits in one of the two layouts. -/
theorem exists_render_finite (style : Style) (negative : Bool) (n : Nat) :
    ∃ point body, render style (.finite negative n) = (if negative then ['-'] else []) ++ body ∧
      (n ≠ 0 → point = (digits n).point) ∧
      (body = positional (Nat.toDigits 10 (digits n).digits) point ∨
        body = exponential style (Nat.toDigits 10 (digits n).digits) (point - 1)) := by
  obtain ⟨point, hpoint⟩ : ∃ p, p = if n = 0 then 1 else (digits n).point := ⟨_, rfl⟩
  obtain ⟨body, hbody⟩ : ∃ body, body =
    if style.leastPoint ≤ point && point ≤ style.greatestPoint then
      positional (Nat.toDigits 10 (digits n).digits) point
    else exponential style (Nat.toDigits 10 (digits n).digits) (point - 1) := ⟨_, rfl⟩
  refine ⟨point, body, ?_, fun hn => by rw [hpoint, if_neg hn], ?_⟩
  · rw [hbody, hpoint]
    cases negative <;> rfl
  · rw [hbody]
    split
    · exact .inl rfl
    · exact .inr rfl

/-- **Numbers read back.** A number is read from the text that it is written as, in any layout. -/
theorem read?_render (style : Style) {x : Binary64} (hx : x.WellFormed) :
    Real.read? (render style x) = some x := by
  cases x with
  | nan => exact (by decide : Real.read? ['n', 'a', 'n'] = some .nan)
  | infinite negative =>
    cases negative with
    | true => exact (by decide : Real.read? ['-', 'i', 'n', 'f'] = some (.infinite true))
    | false => exact (by decide : Real.read? ['i', 'n', 'f'] = some (.infinite false))
  | finite negative n =>
    obtain ⟨point, body, hrender, hpoint, hbody⟩ := exists_render_finite style negative n
    obtain ⟨length, hlength⟩ : ∃ l, l = (Nat.toDigits 10 (digits n).digits).length := ⟨_, rfl⟩
    have hreads : Real.Reads body ⟨(digits n).digits, point - length⟩ := by
      rw [hlength]
      rcases hbody with rfl | rfl
      · exact reads_positional _ point
      · have h := reads_exponential (digits n).digits style (point - 1)
        rwa [Int.sub_add_cancel] at h
    have hback : ofScientific negative (digits n).digits (point - length) =
        .finite negative n := by
      rcases Nat.eq_zero_or_pos n with rfl | hpos
      · exact ofScientific_zero negative _
      · have hexponent : point - length = (digits n).exponent := by
          rw [hpoint hpos.ne', Scientific.point, ← hlength]
          omega
        rw [hexponent]
        exact ofScientific_digits hx negative
    rw [hrender, hreads negative, hback]

/-- Numbers that are written alike are one number. -/
theorem render_inj (style : Style) {x y : Binary64} (hx : x.WellFormed) (hy : y.WellFormed)
    (h : render style x = render style y) : x = y := by
  have hread := read?_render style hx
  rw [h, read?_render style hy] at hread
  exact (Option.some.inj hread).symm

end Shortest

end ProxyMaps.Decimal
