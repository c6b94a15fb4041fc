/-
Dates and moments as they are written. Every part is a run of digits with
something else behind it, so a text can be taken apart again: different dates are
written differently, and so are different moments (`Date.render_inj`,
`Moment.render_inj`).
-/
import ProxyMaps.Calendar
import ProxyMaps.Proofs.Decimal.Numeral
import ProxyMaps.Proofs.Lists

namespace ProxyMaps

/-! ## Runs of digits -/

/-- What stands behind a run of digits is no digit. -/
def EndsDigits (rest : List Char) : Prop := ∀ c ∈ rest.head?, c.isDigit = false

theorem endsDigits_nil : EndsDigits [] := by
  intro c hc
  cases hc

theorem endsDigits_cons {c : Char} (h : c.isDigit = false) (rest : List Char) :
    EndsDigits (c :: rest) := by
  intro d hd
  cases hd
  exact h

/-- The digits of a padded number. -/
def paddedDigits (width n : Nat) : List Char :=
  List.replicate (width - (Nat.toDigits 10 n).length) '0' ++ Nat.toDigits 10 n

theorem toList_padded (width n : Nat) : (padded width n).toList = paddedDigits width n := by
  simp only [padded, paddedDigits, String.toList_append, String.toList_ofList,
    Nat.toString_eq_ofList_toDigits, String.length_ofList]

theorem isDigit_of_mem_paddedDigits {width n : Nat} :
    ∀ c ∈ paddedDigits width n, c.isDigit = true :=
  Decimal.isDigit_append (Decimal.isDigit_replicate _) (Decimal.isDigits_toDigits n).isDigit

theorem ofDigitChars_paddedDigits (width n : Nat) :
    Nat.ofDigitChars 10 (paddedDigits width n) 0 = n :=
  Decimal.ofDigitChars_replicate_append _ n

/-- A padded number and what stands behind it can be told from the text. -/
theorem paddedDigits_append_inj {width m n : Nat} {rest rest' : List Char}
    (hrest : EndsDigits rest) (hrest' : EndsDigits rest')
    (h : paddedDigits width m ++ rest = paddedDigits width n ++ rest') :
    m = n ∧ rest = rest' := by
  have hdigits : paddedDigits width m = paddedDigits width n := by
    rw [← List.takeWhile_append_stop isDigit_of_mem_paddedDigits hrest, h,
      List.takeWhile_append_stop isDigit_of_mem_paddedDigits hrest']
  refine ⟨?_, List.append_cancel_left (hdigits ▸ h)⟩
  rw [← ofDigitChars_paddedDigits width m, hdigits, ofDigitChars_paddedDigits]

/-! ## Dates -/

/-- The text of a date with more text behind it. -/
theorem Date.toList_render_append (d : Date) (rest : List Char) :
    d.render.toList ++ rest =
      paddedDigits 4 d.year ++ '-' :: (paddedDigits 2 d.month ++ '-' ::
        (paddedDigits 2 d.day ++ rest)) := by
  simp [Date.render, toList_padded]

theorem Date.render_append_inj {d e : Date} {rest rest' : List Char} (hrest : EndsDigits rest)
    (hrest' : EndsDigits rest') (h : d.render.toList ++ rest = e.render.toList ++ rest') :
    d = e ∧ rest = rest' := by
  rw [Date.toList_render_append, Date.toList_render_append] at h
  obtain ⟨hyear, h⟩ := paddedDigits_append_inj (endsDigits_cons rfl _) (endsDigits_cons rfl _) h
  obtain ⟨hmonth, h⟩ :=
    paddedDigits_append_inj (endsDigits_cons rfl _) (endsDigits_cons rfl _) (List.cons.inj h).2
  obtain ⟨hday, heq⟩ := paddedDigits_append_inj hrest hrest' (List.cons.inj h).2
  obtain ⟨year, month, day⟩ := d
  obtain ⟨year', month', day'⟩ := e
  cases hyear
  cases hmonth
  cases hday
  exact ⟨rfl, heq⟩

theorem Date.render_inj {d e : Date} (h : d.render = e.render) : d = e := by
  have htext : d.render.toList ++ [] = e.render.toList ++ [] := by rw [h]
  exact (Date.render_append_inj endsDigits_nil endsDigits_nil htext).1

namespace Moment

/-! ## Moments -/

/-- The part of a second as it is written. -/
def fraction (microsecond : Nat) : List Char :=
  if microsecond = 0 then [] else '.' :: paddedDigits 6 microsecond

/-- The time zone as it is written. -/
def zone (ahead : Option Int) : List Char := ((ahead.map renderAhead).getD "").toList

theorem toList_render (m : Moment) :
    m.render.toList = m.date.render.toList ++ ' ' :: (paddedDigits 2 m.hour ++ ':' ::
      (paddedDigits 2 m.minute ++ ':' :: (paddedDigits 2 m.second ++
        (fraction m.microsecond ++ zone m.ahead)))) := by
  by_cases h : m.microsecond = 0
  · simp [render, toList_padded, fraction, zone, h]
  · simp [render, toList_padded, fraction, zone, h]

theorem zone_some (a : Int) :
    zone (some a) = (if a < 0 then '-' else '+') ::
      (paddedDigits 2 (a.natAbs / 60) ++ ':' :: paddedDigits 2 (a.natAbs % 60)) := by
  by_cases h : a < 0
  · simp [zone, renderAhead, toList_padded, h]
  · simp [zone, renderAhead, toList_padded, h]

theorem head?_zone (ahead : Option Int) : ∀ c ∈ (zone ahead).head?, c = '-' ∨ c = '+' := by
  cases ahead with
  | none =>
    intro c hc
    cases hc
  | some a =>
    rw [zone_some]
    intro c hc
    cases hc
    split
    · exact .inl rfl
    · exact .inr rfl

theorem endsDigits_zone (ahead : Option Int) : EndsDigits (zone ahead) := by
  intro c hc
  rcases head?_zone ahead c hc with rfl | rfl
  · rfl
  · rfl

theorem zone_inj {a b : Option Int} (h : zone a = zone b) : a = b := by
  cases a with
  | none =>
    cases b with
    | none => rfl
    | some b =>
      rw [zone_some] at h
      cases h
  | some a =>
    cases b with
    | none =>
      rw [zone_some] at h
      cases h
    | some b =>
      rw [zone_some, zone_some, List.cons.injEq] at h
      obtain ⟨hsign, h⟩ := h
      obtain ⟨hhours, h⟩ :=
        paddedDigits_append_inj (endsDigits_cons rfl _) (endsDigits_cons rfl _) h
      have hrest : paddedDigits 2 (a.natAbs % 60) ++ [] = paddedDigits 2 (b.natAbs % 60) ++ [] := by
        rw [(List.cons.inj h).2]
      have hminutes := (paddedDigits_append_inj endsDigits_nil endsDigits_nil hrest).1
      have hnegative : a < 0 ↔ b < 0 := by
        by_cases ha : a < 0
        · by_cases hb : b < 0
          · exact iff_of_true ha hb
          · simp [ha, hb] at hsign
        · by_cases hb : b < 0
          · simp [ha, hb] at hsign
          · exact iff_of_false ha hb
      congr 1
      omega

theorem endsDigits_fraction_append (microsecond : Nat) (ahead : Option Int) :
    EndsDigits (fraction microsecond ++ zone ahead) := by
  unfold fraction
  split
  · exact endsDigits_zone ahead
  · exact endsDigits_cons rfl _

theorem fraction_append_inj {m n : Nat} {a b : Option Int}
    (h : fraction m ++ zone a = fraction n ++ zone b) : m = n ∧ a = b := by
  have hpoint : ∀ (k : Nat) (x y : Option Int), '.' :: paddedDigits 6 k ++ zone x ≠ zone y := by
    intro k x y heq
    have hhead := head?_zone y '.' (by rw [← heq]; rfl)
    exact absurd hhead (by decide)
  unfold fraction at h
  split at h
  next hm =>
    split at h
    next hn => exact ⟨hm.trans hn.symm, zone_inj h⟩
    next => exact absurd h.symm (hpoint n b a)
  next =>
    split at h
    next => exact absurd h (hpoint m a b)
    next =>
      obtain ⟨hmn, hzone⟩ := paddedDigits_append_inj (endsDigits_zone a) (endsDigits_zone b)
        (List.cons.inj h).2
      exact ⟨hmn, zone_inj hzone⟩

theorem render_inj {m n : Moment} (h : m.render = n.render) : m = n := by
  have htext : m.render.toList = n.render.toList := by rw [h]
  rw [toList_render, toList_render] at htext
  obtain ⟨hdate, htext⟩ :=
    Date.render_append_inj (endsDigits_cons rfl _) (endsDigits_cons rfl _) htext
  obtain ⟨hhour, htext⟩ := paddedDigits_append_inj (endsDigits_cons rfl _)
    (endsDigits_cons rfl _) (List.cons.inj htext).2
  obtain ⟨hminute, htext⟩ := paddedDigits_append_inj (endsDigits_cons rfl _)
    (endsDigits_cons rfl _) (List.cons.inj htext).2
  obtain ⟨hsecond, htext⟩ := paddedDigits_append_inj (endsDigits_fraction_append _ _)
    (endsDigits_fraction_append _ _) (List.cons.inj htext).2
  obtain ⟨hmicrosecond, hahead⟩ := fraction_append_inj htext
  obtain ⟨date, hour, minute, second, microsecond, ahead⟩ := m
  obtain ⟨date', hour', minute', second', microsecond', ahead'⟩ := n
  cases hdate
  cases hhour
  cases hminute
  cases hsecond
  cases hmicrosecond
  cases hahead
  rfl

end Moment

end ProxyMaps
