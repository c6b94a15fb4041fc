/-
Time values: a count and a unit, milliseconds if none is given. They are
bounded by what fits in 63 bits of nanoseconds, and converted to whole
microseconds through floating point numbers.
-/
import ProxyMaps.Decimal.Binary64
import ProxyMaps.Decimal.Integer
import ProxyMaps.Text.Quoted

namespace ProxyMaps

open Decimal (Binary64)

/-- The units of time values. -/
inductive TimeUnit where
  | microsecond
  | millisecond
  | second
  | minute
  | hour
  | day
  deriving DecidableEq, Repr

namespace TimeUnit

/-- The length of a unit in nanoseconds. -/
def nanoseconds : TimeUnit → Nat
  | microsecond => 1000
  | millisecond => 1000 * 1000
  | second => 1000 * 1000 * 1000
  | minute => 60 * 1000 * 1000 * 1000
  | hour => 60 * 60 * 1000 * 1000 * 1000
  | day => 24 * 60 * 60 * 1000 * 1000 * 1000

/-- The unit that the text after a count names. -/
def ofSuffix? : List Char → Option TimeUnit
  | [] => some millisecond
  | ['u', 's'] => some microsecond
  | ['m', 's'] => some millisecond
  | ['s'] => some second
  | ['m'] => some minute
  | ['h'] => some hour
  | ['d'] => some day
  | _ => none

end TimeUnit

/-- A span of time in microseconds. -/
structure Duration where
  microseconds : Nat
  deriving DecidableEq, Repr

namespace Duration

/-- Why a text is not read as a time value. -/
inductive Fault where
  /-- The text is not a time value. -/
  | malformed (value : String)
  /-- The count has too many digits to be read. -/
  | tooLong (digits : Nat)
  /-- The time does not fit in 63 bits of nanoseconds. -/
  | overflow (value : String)
  deriving DecidableEq, Repr

/-- The wording of a fault. -/
def Fault.message : Fault → String
  | malformed value => s!"invalid duration {Text.quoted value}"
  | tooLong digits => Decimal.tooManyDigits digits
  | overflow value => s!"duration {Text.quoted value} overflows"

/-- The greatest time in nanoseconds. -/
def maxNanoseconds : Nat := 0x7fffffffffffffff

/-- The digits and the unit of a time value. -/
def cut? (value : String) : Option (List Char × TimeUnit) :=
  let s := value.toList
  let count := s.takeWhile Char.isDigit
  if count.isEmpty then none
  else (TimeUnit.ofSuffix? (s.dropWhile Char.isDigit)).map fun u => (count, u)

/-- A size rounded to whole units, a tie going to the even one. -/
def toNearest : Binary64 → Nat
  | .finite _ scaled => Decimal.roundDiv scaled Binary64.unit
  | _ => 0

/-- A count of a unit in microseconds; days are counted in hours. -/
def microsecondsOf (count : Nat) (unit : TimeUnit) : Nat :=
  let (count, unit) := if unit = .day then (count * 24, .hour) else (count, unit)
  let nanoseconds := (Binary64.ofInt count).mul (.ofInt unit.nanoseconds)
  toNearest (nanoseconds.div (.ofInt 1000))

/-- The duration that a text writes. -/
def read (value : String) : Except Fault Duration :=
  match cut? value with
  | none => .error (.malformed value)
  | some (digits, unit) =>
    match Decimal.Integer.read .decimal digits with
    | .error (.tooLong n) => .error (.tooLong n)
    | .error .malformed => .error (.malformed value)
    | .ok count =>
      let count := count.toNat
      if maxNanoseconds < count * unit.nanoseconds then .error (.overflow value)
      else if count = 0 then .ok ⟨0⟩
      else .ok ⟨microsecondsOf count unit⟩

end Duration

end ProxyMaps
