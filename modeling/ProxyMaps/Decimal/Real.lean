/-
Floating point numbers read from text: a sign, digits of any script with a
point among them, and an exponent; or the names of the numbers that have no
digits. White space around the numeral is ignored.
-/
import ProxyMaps.Decimal.Binary64
import ProxyMaps.Decimal.Integer

namespace ProxyMaps.Decimal.Real

/-- The names of the infinite number. -/
def infiniteNames : List (List Char) := ["inf".toList, "infinity".toList]

/-- The name of what is not a number. -/
def nanName : List Char := "nan".toList

/-- The digits at the front of a text, and what follows them. -/
def digits (s : List Char) : List Nat × List Char :=
  let isDigit := fun c => (Text.digitValue? c).isSome
  ((s.takeWhile isDigit).filterMap Text.digitValue?, s.dropWhile isDigit)

/-- The digits after a point, if one stands here, and what follows them. -/
def fraction (s : List Char) : List Nat × List Char :=
  match s with
  | '.' :: rest => digits rest
  | s => ([], s)

/-- The exponent that is the whole of a text; an empty text is the exponent zero. -/
def exponent? (s : List Char) : Option Int :=
  match s with
  | [] => some 0
  | c :: rest =>
    if c = 'e' || c = 'E' then
      let (negative, rest) := Integer.cutSign rest
      let (ds, rest) := digits rest
      if ds.isEmpty || !rest.isEmpty then none
      else
        let n : Int := Integer.ofDigits 10 ds
        some (if negative then -n else n)
    else none

/-- A text without the white space around it. -/
def trimEdges (s : List Char) : List Char :=
  ((s.dropWhile Integer.isEdge).reverse.dropWhile Integer.isEdge).reverse

/-- The number that a text writes. -/
def read? (s : List Char) : Option Binary64 :=
  let (negative, s) := Integer.cutSign (trimEdges s)
  let name := s.map Char.toLower
  if infiniteNames.contains name then some (.infinite negative)
  else if name = nanName then some .nan
  else
    let (whole, rest) := digits s
    let (part, rest) := fraction rest
    let all := whole ++ part
    if all.isEmpty then none
    else (exponent? rest).map fun e =>
      Binary64.ofScientific negative (Integer.ofDigits 10 all) (e - part.length)

end ProxyMaps.Decimal.Real
