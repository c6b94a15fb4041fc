/-
Quoted text as messages show it: in single quotes, or in double quotes where
only that avoids an escape. What cannot be printed is written as a numbered
escape, so that a message stays on one line whatever the text holds.
-/
import ProxyMaps.Text.Printable

namespace ProxyMaps.Text.Quoted

/-- The hexadecimal digits of a number, at least `width` of them. -/
def hex (width n : Nat) : List Char :=
  let digits := Nat.toDigits 16 n
  List.replicate (width - digits.length) '0' ++ digits

/-- The quote that a text is put in: double only if it holds single quotes and no double ones. -/
def mark (s : List Char) : Char :=
  if s.contains '\'' && !s.contains '"' then '"' else '\''

/-- The short escape of a character, if it has one inside a text quoted with `q`. -/
def shortEscape? (q c : Char) : Option (List Char) :=
  if c = q || c = '\\' then some ['\\', c]
  else if c = '\t' then some ['\\', 't']
  else if c = '\n' then some ['\\', 'n']
  else if c = '\r' then some ['\\', 'r']
  else none

/-- A character as it stands inside a text quoted with `q`. -/
def escape (q c : Char) : List Char :=
  match shortEscape? q c with
  | some e => e
  | none =>
    if isPrintable c then [c]
    else if c.toNat ≤ 0xff then '\\' :: 'x' :: hex 2 c.toNat
    else if c.toNat ≤ 0xffff then '\\' :: 'u' :: hex 4 c.toNat
    else '\\' :: 'U' :: hex 8 c.toNat

/-- A text with its quotes. -/
def quote (s : List Char) : List Char :=
  let q := mark s
  q :: s.flatMap (escape q) ++ [q]

/-- A byte as it stands inside a byte string quoted with `q`. -/
def escapeByte (q : Char) (b : UInt8) : List Char :=
  let c := Char.ofNat b.toNat
  match shortEscape? q c with
  | some e => e
  | none => if 0x20 ≤ b && b < 0x7f then [c] else '\\' :: 'x' :: hex 2 b.toNat

/-- A byte string with its quotes, marked with a leading `b`. -/
def quoteBytes (bytes : List UInt8) : List Char :=
  let q := mark (bytes.map fun b => Char.ofNat b.toNat)
  'b' :: q :: bytes.flatMap (escapeByte q) ++ [q]

end ProxyMaps.Text.Quoted

namespace ProxyMaps.Text

/-- A text in quotes, as messages show it. -/
def quoted (s : String) : String := String.ofList (Quoted.quote s.toList)

end ProxyMaps.Text
