/-
The values of scalars, by their tags.
-/
import ProxyMaps.Decimal.Real
import ProxyMaps.Text.Base64
import ProxyMaps.Text.Lower
import ProxyMaps.Value
import ProxyMaps.Yaml.Fault
import ProxyMaps.Yaml.Tag

namespace ProxyMaps.Yaml.Content

open Decimal (Binary64 Integer.Fault)

/-! ### Truth values -/

/-- The spellings of truth values, in small letters. -/
def flags : List (String × Bool) :=
  [("yes", true), ("no", false), ("true", true), ("false", false), ("on", true), ("off", false)]

/-- The truth value of a text. -/
def flag (s : String) : Except Fault Bool :=
  let name := String.ofList (Text.lower s.toList)
  match flags.find? fun f => f.1 = name with
  | some f => .ok f.2
  | none => .error (.unknownFlag name)

/-! ### Numbers -/

/-- The base of numbers that are written in places separated by colons. -/
def placeBase : Nat := 60

/-- The integer of a text in a base. -/
def integerIn (b : Decimal.Base) (s : List Char) : Except Fault Int :=
  match Decimal.Integer.read b s with
  | .ok n => .ok n
  | .error _ => .error .malformed

/-- The integer of a text without its sign. -/
def magnitude (s : List Char) : Except Fault Int :=
  match s with
  | [] => .error .noDigits
  | '0' :: 'b' :: rest => integerIn .binary rest
  | '0' :: 'x' :: rest => integerIn .hexadecimal rest
  | ['0'] => .ok 0
  | '0' :: _ => integerIn .octal s
  | _ =>
    if s.contains ':' then do
      let places ← (List.splitOn ':' s).mapM (integerIn .decimal)
      return places.foldl (fun n p => n * placeBase + p) 0
    else integerIn .decimal s

/-- The integer of a text. Underscores do not count. -/
def integer (s : String) : Except Fault Int :=
  let s := s.toList.filter (· ≠ '_')
  if s.isEmpty then .error .noDigits
  else
    let (negative, s) := Decimal.Integer.cutSign s
    (magnitude s).map fun n => if negative then -n else n

/-- The floating point number of a text. -/
def realOf (s : List Char) : Except Fault Binary64 :=
  match Decimal.Real.read? s with
  | some x => .ok x
  | none => .error .malformed

/-- A number, unless it is larger than floating point numbers can be. -/
def unlessTooLarge : Binary64 → Except Fault Binary64
  | .finite s m => .ok (.finite s m)
  | _ => .error .floatTooLarge

/-- What a place counts for. -/
def placeWeight (n : Nat) : Except Fault Binary64 := unlessTooLarge (.ofInt n)

/-- The sum of places, the last one first, each times the next power of the base. -/
def placesSum (sum : Binary64) (weight : Nat) : List Binary64 → Except Fault Binary64
  | [] => .ok sum
  | p :: rest => do placesSum (sum.add (p.mul (← placeWeight weight))) (weight * placeBase) rest

/-- The text of a floating point number as it is read: without underscores, in small letters. -/
def realText (s : String) : List Char := Text.lower (s.toList.filter (· ≠ '_'))

/-- Whether a text is the word for what is not a number, with a sign or without. -/
def isNanWord (s : String) : Bool := (Decimal.Integer.cutSign (realText s)).2 = ".nan".toList

/-- The floating point number of a text. -/
def real (s : String) : Except Fault Binary64 :=
  if (realText s).isEmpty then .error .noDigits
  else
    let (negative, size) := Decimal.Integer.cutSign (realText s)
    let x : Except Fault Binary64 :=
      if size = ".inf".toList then .ok (.infinite false)
      else if size = ".nan".toList then .ok .nan
      else if size.contains ':' then do
        let places ← (List.splitOn ':' size).mapM realOf
        placesSum .zero 1 places.reverse
      else realOf size
    x.map fun x => if negative then x.neg else x

/-! ### Moments -/

/-- A number of `least` digits or one more of them if `wide`, and what follows it. -/
def number? (least : Nat) (wide : Bool) (s : List Char) : Option (Nat × List Char) :=
  let most := if wide then least + 1 else least
  let ds := (s.take most).takeWhile Char.isDigit
  if ds.length < least then none
  else some (ds.foldl (fun n d => n * 10 + (d.toNat - 0x30)) 0, s.drop ds.length)

/-- What follows a character that has to stand here. -/
def after? (c : Char) (s : List Char) : Option (List Char) := [c].isPrefixOf? s

/-- The microseconds of the digits behind a point: six of them count. -/
def microseconds (ds : List Char) : Nat :=
  let six := (ds ++ List.replicate 6 '0').take 6
  six.foldl (fun n d => n * 10 + (d.toNat - 0x30)) 0

/-- Whether a text ends here; one line break more is ignored. -/
def isEnd (s : List Char) : Bool := s = [] || s = ['\n']

/-- A time zone that is the whole of a text: universal time, or hours and minutes ahead or
behind. -/
def zone? (s : List Char) : Option Int :=
  match s with
  | 'Z' :: rest => if isEnd rest then some 0 else none
  | c :: rest =>
    if c = '+' || c = '-' then do
      let (hours, rest) ← number? 1 true rest
      let (minutes, rest) ←
        match rest with
        | ':' :: more => number? 2 false more
        | rest => some (0, rest)
      let n : Int := hours * 60 + minutes
      if isEnd rest then some (if c = '-' then -n else n) else none
    else none
  | [] => none

/-- The parts of a moment that a text writes, before it is known whether there is one. -/
structure Parts where
  year : Nat
  month : Nat
  day : Nat
  /-- The hour, the minute, the second and the microsecond. -/
  time : Option (Nat × Nat × Nat × Nat) := none
  ahead : Option Int := none

/-- What separates a date from a time, at the front of a text. -/
def separator? (s : List Char) : Option (List Char) :=
  match s with
  | 'T' :: rest | 't' :: rest => some rest
  | s =>
    let rest := s.dropWhile fun c => c = ' ' || c = '\t'
    if rest.length < s.length then some rest else none

/-- The parts of a date, and what follows them. -/
def dateParts? (s : List Char) : Option (Parts × List Char) := do
  let (year, s) ← number? 4 false s
  let (month, s) ← number? 1 true (← after? '-' s)
  let (day, s) ← number? 1 true (← after? '-' s)
  return ({ year, month, day }, s)

/-- The parts that a text writes: a date, and perhaps a time with a time zone. -/
def parts? (s : List Char) : Option Parts := do
  let (p, s) ← dateParts? s
  if isEnd s then return p
  else
    let s ← separator? s
    let (hour, s) ← number? 1 true s
    let (minute, s) ← number? 2 false (← after? ':' s)
    let (second, s) ← number? 2 false (← after? ':' s)
    let (fraction, s) :=
      match s with
      | '.' :: rest => (rest.takeWhile Char.isDigit, rest.dropWhile Char.isDigit)
      | s => ([], s)
    let p := { p with time := some (hour, minute, second, microseconds fraction) }
    if isEnd s then return p
    else
      let ahead ← zone? (s.dropWhile fun c => c = ' ' || c = '\t')
      return { p with ahead := some ahead }

/-- The date or the moment of a text. -/
def moment (s : String) : Except Fault Value :=
  match parts? s.toList with
  | none => .error .notMoment
  | some p =>
    let value? : Option Value := do
      let date ← Date.of? p.year p.month p.day
      match p.time with
      | none => return .date date
      | some (hour, minute, second, fine) =>
        return .moment (← Moment.of? date hour minute second fine p.ahead)
    match value? with
    | some v => .ok v
    | none => .error .malformed

/-! ### All scalars -/

/-- The bytes of a text. -/
def binary (s : String) : Except Fault (List UInt8) :=
  if s.toList.all fun c => c.toNat < 0x80 then
    match Text.Base64.read? s.toList with
    | some bytes => .ok bytes
    | none => .error .malformed
  else .error .malformed

/-- The value of a text with the tag of a scalar; other tags have none. -/
def ofText (tag : Tag) (s : String) : Except Fault Value :=
  match tag with
  | .null => .ok .null
  | .bool => (flag s).map .bool
  | .int => (integer s).map .int
  | .float => (real s).map .float
  | .binary => (binary s).map .bytes
  | .moment => moment s
  | .text => .ok (.text s)
  | _ => .error .malformed

end ProxyMaps.Yaml.Content
