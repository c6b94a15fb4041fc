/-
Timeouts in annotations. What a timeout is clipped to is decided by the exact
time that it writes (`clipTimeout_of_writes`), although that time is rounded on
the way: times that could be moved by the rounding are far above the limit.
-/
import ProxyMaps.Annotation
import ProxyMaps.Proofs.Duration

namespace ProxyMaps.AnnotationValue

open Decimal (Binary64)
open Duration (Writes exactNanoseconds)

/-- The longest time that the proxy accepts, in nanoseconds. -/
def maxTimeoutNanoseconds : Nat := 2147483647 * 10 ^ 6

section

variable {value : String} {digits : List Char} {unit : TimeUnit}

theorem isEmpty_of_writes (h : Writes value digits unit) : value.isEmpty = false := by
  rw [String.isEmpty_eq_false_iff]
  rintro rfl
  have hdigits := h.isDigits.ne_nil
  rcases h.text with htext | ⟨htext, -⟩
  · exact hdigits (List.append_eq_nil_iff.1 htext.symm).1
  · exact hdigits htext.symm

theorem maxTimeoutDuration_lt_iff (h : exactNanoseconds digits unit ≤ Duration.maxNanoseconds) :
    maxTimeoutDuration.microseconds <
        Duration.microsecondsOf (Nat.ofDigitChars 10 digits 0) unit ↔
      maxTimeoutNanoseconds < exactNanoseconds digits unit := by
  have hlt : Nat.ofDigitChars 10 digits 0 * unit.nanoseconds < 2 ^ 63 :=
    Nat.lt_succ_of_le h
  have hlimit : 2147483647 * 1000 < 2 ^ 42 := by decide
  exact Duration.lt_microsecondsOf_iff hlimit hlt

theorem clipTimeout_of_writes (h : Writes value digits unit) :
    clipTimeout value =
      if Decimal.maxDigits < digits.length then defaultTimeout
      else if maxTimeoutNanoseconds < exactNanoseconds digits unit then maxTimeout
      else value := by
  rw [clipTimeout, isEmpty_of_writes h, if_neg Bool.false_ne_true, Duration.read_of_writes h]
  by_cases hlong : Decimal.maxDigits < digits.length
  · rw [if_pos hlong, if_pos hlong]
  rw [if_neg hlong, if_neg hlong]
  by_cases hover : Duration.maxNanoseconds < exactNanoseconds digits unit
  · have hlimit : maxTimeoutNanoseconds < Duration.maxNanoseconds := by decide
    rw [if_pos hover, if_pos (Nat.lt_trans hlimit hover)]
  · rw [if_neg hover]
    simp only [maxTimeoutDuration_lt_iff (Nat.le_of_not_lt hover)]

theorem clipTimeout_of_within (h : Writes value digits unit)
    (hshort : digits.length ≤ Decimal.maxDigits)
    (hlimit : exactNanoseconds digits unit ≤ maxTimeoutNanoseconds) :
    clipTimeout value = value := by
  rw [clipTimeout_of_writes h, if_neg (Nat.not_lt.2 hshort), if_neg (Nat.not_lt.2 hlimit)]

theorem clipTimeout_of_not_writes (h : ¬ ∃ digits unit, Writes value digits unit) :
    clipTimeout value = "" := by
  rw [clipTimeout, Duration.read_of_not_writes h]
  split
  next hempty => exact String.isEmpty_iff.1 hempty
  · rfl

/-- The longest timeout is within the limit. -/
theorem exactNanoseconds_of_writes_maxTimeout (h : Writes maxTimeout digits unit) :
    exactNanoseconds digits unit = maxTimeoutNanoseconds := by
  have hcut : Duration.cut? maxTimeout = some ("2147483647".toList, .millisecond) := by decide
  have hsame := (Duration.cut?_eq_some_iff.2 h).symm.trans hcut
  cases hsame
  decide

end

theorem clipTimeout_maxTimeout : clipTimeout maxTimeout = maxTimeout :=
  have h : Writes maxTimeout "2147483647".toList .millisecond := ⟨by decide, .inl rfl⟩
  clipTimeout_of_within h (by decide) (by decide)

theorem clipTimeout_defaultTimeout : clipTimeout defaultTimeout = defaultTimeout :=
  have h : Writes defaultTimeout "5".toList .second := ⟨by decide, .inl rfl⟩
  clipTimeout_of_within h (by decide) (by decide)

/-- What a timeout is clipped to is clipped to itself. -/
theorem clipTimeout_idem (value : String) :
    clipTimeout (clipTimeout value) = clipTimeout value := by
  by_cases h : ∃ digits unit, Writes value digits unit
  · obtain ⟨digits, unit, h⟩ := h
    rw [clipTimeout_of_writes h]
    split
    · exact clipTimeout_defaultTimeout
    next hshort =>
      split
      · exact clipTimeout_maxTimeout
      next hlimit => exact clipTimeout_of_within h (Nat.not_lt.1 hshort) (Nat.not_lt.1 hlimit)
  · rw [clipTimeout_of_not_writes h]
    rfl

/-- **Clipping a timeout.** A text that writes no time is dropped. One that
writes a time with too many digits is replaced by the default. Any other stays
as it is exactly if the time it writes is within the limit, and becomes the
longest timeout if not. No time that is converted leaves the floating point
numbers or what a span of time can be. -/
theorem clipTimeout_exact (value : String) :
    ((¬ ∃ digits unit, Writes value digits unit) → clipTimeout value = "") ∧
      ∀ digits unit, Writes value digits unit →
        (digits.length ≤ Decimal.maxDigits →
          (clipTimeout value = value ↔ exactNanoseconds digits unit ≤ 2147483647 * 10 ^ 6) ∧
          (2147483647 * 10 ^ 6 < exactNanoseconds digits unit →
            clipTimeout value = "2147483647ms")) ∧
        (Decimal.maxDigits < digits.length → clipTimeout value = "5s") ∧
        (exactNanoseconds digits unit ≤ Duration.maxNanoseconds →
          ∃ n, Duration.floating (Nat.ofDigitChars 10 digits 0) unit = .finite false n ∧
            n < Duration.spanLimit * Binary64.unit) := by
  refine ⟨clipTimeout_of_not_writes, fun digits unit h => ⟨fun hshort => ?_, fun hlong => ?_,
    fun hsmall => Duration.floating_finite (Nat.lt_succ_of_le hsmall)⟩⟩
  · rw [clipTimeout_of_writes h, if_neg (Nat.not_lt.2 hshort)]
    by_cases hlimit : maxTimeoutNanoseconds < exactNanoseconds digits unit
    · rw [if_pos hlimit]
      refine ⟨iff_of_false ?_ (Nat.not_le.2 hlimit), fun _ => rfl⟩
      -- what is clipped is not the longest timeout itself
      rintro rfl
      exact absurd (exactNanoseconds_of_writes_maxTimeout h) (Nat.ne_of_gt hlimit)
    · rw [if_neg hlimit]
      exact ⟨iff_of_true rfl (Nat.le_of_not_lt hlimit), fun h => absurd h hlimit⟩
  · rw [clipTimeout_of_writes h, if_pos hlong]
    rfl

theorem clipTimeout_beyond_limit :
    clipTimeout "2147483648" = "2147483647ms" ∧ clipTimeout "24d" = "24d" ∧
      clipTimeout "1.5s" = "" := by
  obtain ⟨hbeyond, -⟩ := (clipTimeout_exact "2147483648").2 "2147483648".toList .millisecond
    ⟨by decide, .inr ⟨rfl, rfl⟩⟩
  obtain ⟨hwithin, -⟩ := (clipTimeout_exact "24d").2 "24".toList .day ⟨by decide, .inl rfl⟩
  have hcut : Duration.cut? "1.5s" = none := by decide
  have hnone : ¬ ∃ digits unit, Writes "1.5s" digits unit := fun ⟨digits, unit, h⟩ =>
    nomatch hcut.symm.trans (Duration.cut?_eq_some_iff.2 h)
  exact ⟨(hbeyond (by decide)).2 (by decide), (hwithin (by decide)).1.2 (by decide),
    (clipTimeout_exact "1.5s").1 hnone⟩

end ProxyMaps.AnnotationValue
