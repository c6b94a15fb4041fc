/-
Integers read from text: an optional sign, a mark for bases other than ten,
and digits of any script with single underscores between them. White space
around the numeral is ignored. Numerals of base ten are limited in length,
because reading a long one takes quadratic time.
-/
import ProxyMaps.Text.Split
import ProxyMaps.Text.Digit

namespace ProxyMaps.Decimal

/-- The bases that integers are written in. -/
inductive Base where
  | binary
  | octal
  | decimal
  | hexadecimal
  deriving DecidableEq, Repr

namespace Base

/-- The number of digits of the base. -/
def size : Base → Nat
  | binary => 2
  | octal => 8
  | decimal => 10
  | hexadecimal => 16

/-- Whether `0` and this letter may mark a numeral of the base. -/
def isMark : Base → Char → Bool
  | binary, c => c = 'b' || c = 'B'
  | octal, c => c = 'o' || c = 'O'
  | decimal, _ => false
  | hexadecimal, c => c = 'x' || c = 'X'

/-- The value of a digit of the base. -/
def digit? (b : Base) (c : Char) : Option Nat :=
  ((Text.digitValue? c).or (Text.asciiDigitValue? c)).filter (· < b.size)

end Base

/-- Numerals of base ten have at most this many digits, leading zeros included. -/
def maxDigits : Nat := 4300

namespace Integer

/-- Why a text is not read as an integer. -/
inductive Fault where
  /-- The text is not a numeral. -/
  | malformed
  /-- The numeral has too many digits. -/
  | tooLong (digits : Nat)
  deriving DecidableEq, Repr

/-- Whether a character may stand around a numeral: white space other than the ASCII separators. -/
def isEdge (c : Char) : Bool :=
  Text.isBlank c && !(0x1c ≤ c.toNat && c.toNat ≤ 0x1f)

/-- The sign of a text, as "is negative", and what follows it. -/
def cutSign : List Char → Bool × List Char
  | '-' :: rest => (true, rest)
  | '+' :: rest => (false, rest)
  | s => (false, s)

/-- What follows the mark of a base and an underscore after it, or the text if it has no mark. -/
def dropMark (b : Base) (s : List Char) : List Char :=
  match s with
  | '0' :: m :: rest =>
    if b.isMark m then
      match rest with
      | '_' :: rest => rest
      | rest => rest
    else s
  | s => s

/-- The number that digits of a base write, the most significant first. -/
def ofDigits (base : Nat) (ds : List Nat) : Nat := ds.foldl (fun n d => n * base + d) 0

/-- Whether a character belongs to the body of a numeral. -/
def inBody (b : Base) (c : Char) : Bool := (b.digit? c).isSome || c = '_'

/-- The integer that a text writes in a base. -/
def read (b : Base) (s : List Char) : Except Fault Int :=
  let (negative, s) := cutSign (s.dropWhile isEdge)
  let s := dropMark b s
  let groups := List.splitOn '_' (s.takeWhile (inBody b))
  let digits := groups.flatten
  if groups.any List.isEmpty then .error .malformed
  else if b = .decimal && maxDigits < digits.length then .error (.tooLong digits.length)
  else if (s.dropWhile (inBody b)).any (fun c => !isEdge c) then .error .malformed
  else
    let n := ofDigits b.size (digits.filterMap b.digit?)
    .ok (if negative then -n else n)

/-- The decimal numeral of an integer, unless it has more digits than a numeral may have. -/
def render? (n : Int) : Option String :=
  let s := toString n.natAbs
  if maxDigits < s.length then none else some (if n < 0 then "-" ++ s else s)

end Integer

/-- The wording that reports a numeral of base ten with too many digits. -/
def tooManyDigits (digits : Nat) : String :=
  s!"Exceeds the limit ({maxDigits} digits) for integer string conversion: " ++
    s!"value has {digits} digits; use sys.set_int_max_str_digits() to increase the limit"

end ProxyMaps.Decimal
