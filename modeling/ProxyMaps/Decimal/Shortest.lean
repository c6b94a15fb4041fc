/-
The decimals that numbers are written as: the shortest one that reads back as the
number, with the ways to lay its digits out, with a point among them or with an
exponent; or the one with a fixed number of digits after the point, rounded from
the exact value.
-/
import ProxyMaps.Decimal.Binary64

namespace ProxyMaps.Decimal

/-- The decimal `digits` times ten to the power of `exponent`. -/
structure Scientific where
  digits : Nat
  exponent : Int
  deriving DecidableEq, Repr

namespace Scientific

/-- The same decimal without zeros at the end of its digits; `fuel` bounds their number. -/
def trimZeros (fuel : Nat) (d : Scientific) : Scientific :=
  match fuel with
  | 0 => d
  | fuel + 1 =>
    if d.digits ≠ 0 && d.digits % 10 = 0 then
      trimZeros fuel ⟨d.digits / 10, d.exponent + 1⟩
    else d

/-- Where the decimal point stands, counted from before the first digit. -/
def point (d : Scientific) : Int := (Nat.toDigits 10 d.digits).length + d.exponent

end Scientific

namespace Shortest

open Binary64 (unit)

/-- The place of the first digit of a number other than zero: 0 for units, 1 for tens. -/
def leadingPlace (scaled : Nat) : Int :=
  (Nat.toDigits 10 (scaled * Nat.pow 10 400 / unit)).length - 401

/-- The quotient `num / den` of a number by a power of ten. -/
def scale (scaled : Nat) (place : Int) : Nat × Nat :=
  if 0 ≤ place then (scaled, unit * Nat.pow 10 place.toNat)
  else (scaled * Nat.pow 10 (-place).toNat, unit)

/-- Whether a decimal reads back as the number `scaled`. -/
def readsBack (scaled : Nat) (d : Scientific) : Bool :=
  Binary64.ofScientific false d.digits d.exponent == .finite false scaled

/-- The decimals next to a number on the grid of a place: the nearer first, and of two that are
equally near the one with an even last digit. -/
def neighbours (scaled : Nat) (place : Int) : List Scientific :=
  let (num, den) := scale scaled place
  let below : Scientific := ⟨num / den, place⟩
  let above : Scientific := ⟨num / den + 1, place⟩
  if roundDiv num den = num / den then [below, above] else [above, below]

/-- The first decimal with at least `count` digits that reads back; `fuel` more digits are tried. -/
def search (scaled : Nat) (lead : Int) (count : Nat) : Nat → Option Scientific
  | 0 => none
  | fuel + 1 =>
    ((neighbours scaled (lead - count + 1)).find? (readsBack scaled)).or
      (search scaled lead (count + 1) fuel)

/-- The shortest decimal that reads back as the number `scaled`; 17 digits always do. -/
def digits (scaled : Nat) : Scientific :=
  if scaled = 0 then ⟨0, 0⟩
  else
    let lead := leadingPlace scaled
    ((search scaled lead 1 17).getD ⟨scaled, -1074⟩).trimZeros 400

/-- How a number is laid out. -/
structure Style where
  /-- The least position of the point that is written without an exponent. -/
  leastPoint : Int
  /-- The greatest position of the point that is written without an exponent. -/
  greatestPoint : Int
  /-- Whether an exponent that is not negative has a plus sign. -/
  plusSign : Bool
  /-- The least number of digits of an exponent. -/
  exponentWidth : Nat

/-- The layout of numbers in messages and in converted text. -/
def plain : Style := ⟨-3, 16, true, 2⟩

/-- The layout of numbers in JSON text. -/
def json : Style := ⟨-4, 16, false, 1⟩

/-- The digits with a point at `point`, and at least one digit on each side of it. -/
def positional (ds : List Char) (point : Int) : List Char :=
  if point ≤ 0 then '0' :: '.' :: List.replicate (-point).toNat '0' ++ ds
  else
    let n := point.toNat
    if ds.length ≤ n then ds ++ List.replicate (n - ds.length) '0' ++ ['.', '0']
    else ds.take n ++ '.' :: ds.drop n

/-- The sign of an exponent. -/
def exponentSign (plusSign : Bool) (exponent : Int) : List Char :=
  if exponent < 0 then ['-'] else if plusSign then ['+'] else []

/-- The digits with an exponent: one digit, the others after a point, and the exponent. -/
def exponential (style : Style) (ds : List Char) (exponent : Int) : List Char :=
  let mantissa := if ds.length ≤ 1 then ds else ds.take 1 ++ '.' :: ds.drop 1
  let sign := exponentSign style.plusSign exponent
  let body := Nat.toDigits 10 exponent.natAbs
  mantissa ++ 'e' :: sign ++ List.replicate (style.exponentWidth - body.length) '0' ++ body

/-- A number in a layout. -/
def render (style : Style) : Binary64 → List Char
  | .nan => ['n', 'a', 'n']
  | .infinite negative => (if negative then ['-'] else []) ++ ['i', 'n', 'f']
  | .finite negative scaled =>
    let d := digits scaled
    let ds := Nat.toDigits 10 d.digits
    let point := if scaled = 0 then 1 else d.point
    let body :=
      if style.leastPoint ≤ point && point ≤ style.greatestPoint then positional ds point
      else exponential style ds (point - 1)
    if negative then '-' :: body else body

end Shortest

end ProxyMaps.Decimal

namespace ProxyMaps.Decimal.Fixed

/-- A whole number of units of the last place, with its point put in. -/
def layout (places n : Nat) : List Char :=
  let ds := Nat.toDigits 10 n
  let ds := List.replicate (places + 1 - ds.length) '0' ++ ds
  ds.take (ds.length - places) ++ '.' :: ds.drop (ds.length - places)

/-- A number with `places` digits after the point; a tie goes to the even last digit. -/
def render (places : Nat) : Binary64 → String
  | .nan => "nan"
  | .infinite negative => if negative then "-inf" else "inf"
  | .finite negative scaled =>
    let body := layout places (roundDiv (scaled * Nat.pow 10 places) Binary64.unit)
    String.ofList (if negative then '-' :: body else body)

end ProxyMaps.Decimal.Fixed
