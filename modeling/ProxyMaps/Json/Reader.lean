/-
Reading JSON text. The grammar is the strict one: no comments, no trailing
commas, no leading zeros, no bare control characters in strings, and escapes
for surrogates only in pairs.

The readers take a text and give the document at its front with the rest.
They recurse on a fuel that `read?` computes from the length of the text;
every second step takes a character, so the fuel never runs out.
-/
import ProxyMaps.Json
import ProxyMaps.Text.Digit

namespace ProxyMaps.Json

open Decimal (Binary64)

namespace Reader

/-- Whether a character is white space of JSON. -/
def isBlank (c : Char) : Bool := c = ' ' || c = '\t' || c = '\n' || c = '\r'

/-- The text without its leading white space. -/
def skipBlank (s : List Char) : List Char := s.dropWhile isBlank

/-- The number of four hexadecimal digits, and what follows them. -/
def hex4? : List Char → Option (Nat × List Char)
  | a :: b :: c :: d :: rest => do
    let a ← Text.hexValue? a
    let b ← Text.hexValue? b
    let c ← Text.hexValue? c
    let d ← Text.hexValue? d
    return (((a * 16 + b) * 16 + c) * 16 + d, rest)
  | _ => none

/-- The character of a numbered escape, after its `u`: one unit, or a pair of surrogates. -/
def numbered? (s : List Char) : Option (Char × List Char) := do
  let (n, rest) ← hex4? s
  if 0xd800 ≤ n && n ≤ 0xdbff then
    match rest with
    | '\\' :: 'u' :: rest =>
      let (m, rest) ← hex4? rest
      if 0xdc00 ≤ m && m ≤ 0xdfff then
        some (Char.ofNat (0x10000 + (n - 0xd800) * 0x400 + (m - 0xdc00)), rest)
      else none
    | _ => none
  else if 0xdc00 ≤ n && n ≤ 0xdfff then none
  else some (Char.ofNat n, rest)

/-- The character of an escape, after its backslash. -/
def escape? : List Char → Option (Char × List Char)
  | '"' :: rest => some ('"', rest)
  | '\\' :: rest => some ('\\', rest)
  | '/' :: rest => some ('/', rest)
  | 'b' :: rest => some ('\x08', rest)
  | 'f' :: rest => some ('\x0c', rest)
  | 'n' :: rest => some ('\n', rest)
  | 'r' :: rest => some ('\r', rest)
  | 't' :: rest => some ('\t', rest)
  | 'u' :: rest => numbered? rest
  | _ => none

/-- The characters of a string, after its opening quote. -/
def string? : Nat → List Char → Option (List Char × List Char)
  | 0, _ => none
  | _ + 1, [] => none
  | fuel + 1, c :: rest =>
    if c = '"' then some ([], rest)
    else if c = '\\' then do
      let (c, rest) ← escape? rest
      let (cs, rest) ← string? fuel rest
      return (c :: cs, rest)
    else if c.toNat < 0x20 then none
    else do
      let (cs, rest) ← string? fuel rest
      return (c :: cs, rest)

/-- The digits at the front of a text, and what follows them. -/
def digits (s : List Char) : List Char × List Char :=
  (s.takeWhile Char.isDigit, s.dropWhile Char.isDigit)

/-- The digits at the front of a text, which has to have some. -/
def digits? (s : List Char) : Option (List Char × List Char) :=
  let (ds, rest) := digits s
  if ds.isEmpty then none else some (ds, rest)

/-- The number that digits write. -/
def ofDigits (ds : List Char) : Nat := ds.foldl (fun n d => n * 10 + (d.toNat - 0x30)) 0

/-- The digits after a decimal point, or none where no point stands. -/
def fraction? : List Char → Option (List Char × List Char)
  | '.' :: rest => digits? rest
  | s => some ([], s)

/-- The exponent at the front of a text, if one stands there. -/
def exponent? : List Char → Option (Option Int × List Char)
  | [] => some (none, [])
  | c :: rest =>
    if c = 'e' || c = 'E' then
      match rest with
      | '-' :: rest => (digits? rest).map fun p => (some (-(ofDigits p.1 : Int)), p.2)
      | '+' :: rest => (digits? rest).map fun p => (some (ofDigits p.1 : Int), p.2)
      | rest => (digits? rest).map fun p => (some (ofDigits p.1 : Int), p.2)
    else some (none, c :: rest)

/-- The number at the front of a text, after its sign. -/
def number? (negative : Bool) (s : List Char) : Option (Json × List Char) := do
  let (whole, rest) ← digits? s
  if whole.head? = some '0' && 1 < whole.length then none
  else
    let (part, rest) ← fraction? rest
    let (exponent, rest) ← exponent? rest
    if part.isEmpty && exponent.isNone then
      let n : Int := ofDigits whole
      return (int (if negative then -n else n), rest)
    else
      let e := exponent.getD 0 - part.length
      return (real (Binary64.ofScientific negative (ofDigits (whole ++ part)) e), rest)

/-- Documents may be nested this deeply. -/
def maxDepth : Nat := 1024

mutual

/-- The document at the front of a text that may be nested `depth` levels deep. -/
def value? : Nat → Nat → List Char → Option (Json × List Char)
  | 0, _, _ => none
  | fuel + 1, depth, s =>
    match skipBlank s with
    | 'n' :: 'u' :: 'l' :: 'l' :: rest => some (null, rest)
    | 't' :: 'r' :: 'u' :: 'e' :: rest => some (bool true, rest)
    | 'f' :: 'a' :: 'l' :: 's' :: 'e' :: rest => some (bool false, rest)
    | '"' :: rest => (string? (rest.length + 1) rest).map fun p => (text (String.ofList p.1), p.2)
    | '-' :: rest => number? true rest
    | '[' :: rest =>
      match depth with
      | 0 => none
      | depth + 1 =>
        match skipBlank rest with
        | ']' :: rest => some (list [], rest)
        | rest => (items? fuel depth rest).map fun p => (list p.1, p.2)
    | '\x7b' :: rest =>
      match depth with
      | 0 => none
      | depth + 1 =>
        match skipBlank rest with
        | '\x7d' :: rest => some (object [], rest)
        | rest => (fields? fuel depth rest).map fun p => (object p.1, p.2)
    | rest => number? false rest

/-- The items of a list, from the next one to the closing bracket. -/
def items? : Nat → Nat → List Char → Option (List Json × List Char)
  | 0, _, _ => none
  | fuel + 1, depth, s => do
    let (item, rest) ← value? fuel depth s
    match skipBlank rest with
    | ']' :: rest => return ([item], rest)
    | ',' :: rest =>
      let (items, rest) ← items? fuel depth rest
      return (item :: items, rest)
    | _ => none

/-- The fields of an object, from the next one to the closing brace. -/
def fields? : Nat → Nat → List Char → Option (List (String × Json) × List Char)
  | 0, _, _ => none
  | fuel + 1, depth, s =>
    match skipBlank s with
    | '"' :: rest => do
      let (name, rest) ← string? (rest.length + 1) rest
      match skipBlank rest with
      | ':' :: rest =>
        let (item, rest) ← value? fuel depth rest
        match skipBlank rest with
        | '\x7d' :: rest => return ([(String.ofList name, item)], rest)
        | ',' :: rest =>
          let (fields, rest) ← fields? fuel depth rest
          return ((String.ofList name, item) :: fields, rest)
        | _ => none
      | _ => none
    | _ => none

end

end Reader

/-- The document that a text writes, with white space around it. -/
def read? (s : String) : Option Json :=
  let cs := s.toList
  match Reader.value? (2 * cs.length + 2) Reader.maxDepth cs with
  | some (v, rest) => if (Reader.skipBlank rest).isEmpty then some v else none
  | none => none

end ProxyMaps.Json
