/-
Binary floating point numbers of 64 bits, with exact arithmetic and one
rounding at the end.

A finite number is kept as a whole multiple of the least positive one, which
is 2 to the power of -1074. So `scaled` says everything about its size, two
numbers are equal in size when their multiples are equal, and every operation
is integer arithmetic followed by `round`: to the nearest multiple that has
53 significant bits, a tie going to the even neighbour.
-/

namespace ProxyMaps.Decimal

/-- The quotient rounded to the nearest integer, a tie to the even one. -/
def roundDiv (num den : Nat) : Nat :=
  let q := num / den
  let r := 2 * (num % den)
  if r < den then q
  else if den < r then q + 1
  else if q % 2 = 0 then q else q + 1

/-- A binary floating point number of 64 bits. -/
inductive Binary64 where
  /-- The number `scaled` times the least positive one, with a sign. -/
  | finite (negative : Bool) (scaled : Nat)
  | infinite (negative : Bool)
  | nan
  deriving DecidableEq, Repr

namespace Binary64

/-- One, as a multiple of the least positive number. -/
def unit : Nat := Nat.pow 2 1074

/-- The first multiple of the least positive number that is too large. -/
def limit : Nat := Nat.pow 2 2098

/-- The spacing of the numbers of a size, given the whole part of that size. -/
def spacing (q : Nat) : Nat := Nat.pow 2 (Nat.log2 q - 52)

/-- The multiple with 53 significant bits that is nearest to `num / den`. -/
def nearest (num den : Nat) : Nat :=
  let gap := spacing (num / den)
  roundDiv num (den * gap) * gap

/-- The number nearest to `num / den` times the least positive one. -/
def round (negative : Bool) (num den : Nat) : Binary64 :=
  let n := nearest num den
  if n < limit then finite negative n else infinite negative

def zero : Binary64 := finite false 0

/-- Whether the number is zero. -/
def isZero : Binary64 → Bool
  | finite _ n => n == 0
  | _ => false

/-- The number with the opposite sign. -/
def neg : Binary64 → Binary64
  | finite s n => finite (!s) n
  | infinite s => infinite (!s)
  | nan => nan

/-- A finite number as a signed multiple of the least positive one. -/
def signed (negative : Bool) (n : Nat) : Int := if negative then -n else n

/-- The number nearest to an integer. -/
def ofInt (n : Int) : Binary64 := round (n < 0) (n.natAbs * unit) 1

/-- The number nearest to a quotient of integers. -/
def ofQuotient (n : Int) (d : Nat) : Binary64 := round (n < 0) (n.natAbs * unit) d

/--
The number nearest to `digits` times ten to the power of `exponent`. Outside
the exponents that a finite number can have, only the size matters.
-/
def ofScientific (negative : Bool) (digits : Nat) (exponent : Int) : Binary64 :=
  let places : Int := (Nat.toDigits 10 digits).length + exponent
  if digits = 0 || places < -330 then finite negative 0
  else if 310 < places then infinite negative
  else if 0 ≤ exponent then round negative (digits * Nat.pow 10 exponent.toNat * unit) 1
  else round negative (digits * unit) (Nat.pow 10 (-exponent).toNat)

/-- The rounded sum. -/
def add : Binary64 → Binary64 → Binary64
  | nan, _ | _, nan => nan
  | infinite s, infinite t => if s = t then infinite s else nan
  | infinite s, finite _ _ => infinite s
  | finite _ _, infinite t => infinite t
  | finite s m, finite t n =>
    let sum := signed s m + signed t n
    if sum = 0 then finite (s && t) 0 else round (sum < 0) sum.natAbs 1

/-- The rounded difference. -/
def sub (x y : Binary64) : Binary64 := add x (neg y)

/-- The rounded product. -/
def mul : Binary64 → Binary64 → Binary64
  | nan, _ | _, nan => nan
  | infinite s, infinite t => infinite (s != t)
  | infinite s, finite t n => if n = 0 then nan else infinite (s != t)
  | finite s m, infinite t => if m = 0 then nan else infinite (s != t)
  | finite s m, finite t n => round (s != t) (m * n) unit

/-- The rounded quotient by a number other than zero. -/
def div : Binary64 → Binary64 → Binary64
  | nan, _ | _, nan => nan
  | infinite _, infinite _ => nan
  | infinite s, finite t _ => infinite (s != t)
  | finite s _, infinite t => finite (s != t) 0
  | finite s m, finite t n => round (s != t) (m * unit) n

/-- Whether one number is less than another. -/
def lt : Binary64 → Binary64 → Bool
  | nan, _ | _, nan => false
  | infinite s, infinite t => s && !t
  | infinite s, finite _ _ => s
  | finite _ _, infinite t => !t
  | finite s m, finite t n => signed s m < signed t n

/-- The integer that is left when the part after the point is dropped, for a finite number. -/
def truncate? : Binary64 → Option Int
  | finite s n => some (signed s (n / unit))
  | _ => none

/-- The integer that the number is equal to, if it is one. -/
def toInt? : Binary64 → Option Int
  | finite s n => if n % unit = 0 then some (signed s (n / unit)) else none
  | _ => none

end Binary64

end ProxyMaps.Decimal
