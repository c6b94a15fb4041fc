/-
Tests of a single character: any character, a given one, or the members of a
class. A test may disregard case, either for ASCII letters alone or for all
letters.

Without regard to case, characters are compared by their small letters; in the
wide mode, small letters that share a capital are the same letter too.
-/
import ProxyMaps.Text.Split
import ProxyMaps.Text.Case
import ProxyMaps.Text.Digit
import ProxyMaps.Text.Word

namespace ProxyMaps.Regex

/-- The named classes of characters. -/
inductive Category where
  | digit
  | space
  | word
  deriving DecidableEq, Repr

namespace Category

/-- Whether an ASCII character belongs to a class; no other character does. -/
def holdsAscii : Category → Char → Bool
  | digit, c => c.isDigit
  | space, c => c = ' ' || ('\t' ≤ c && c ≤ '\r')
  | word, c => Text.isAsciiWord c

/-- Whether a character of any script belongs to a class. -/
def holds : Category → Char → Bool
  | digit, c => Text.isDecimalDigit c
  | space, c => Text.isBlank c
  | word, c => Text.isWord c

end Category

/-- How a test treats capital and small letters. -/
inductive CaseMode where
  /-- They differ. -/
  | exact
  /-- They are the same for the letters of ASCII. -/
  | asciiFold
  /-- They are the same for all letters. -/
  | fold
  deriving DecidableEq, Repr

namespace CaseMode

/-- The small letter of a code point, as far as a mode equates letters. -/
def lower : CaseMode → Nat → Nat
  | exact, n => n
  | asciiFold, n => Text.asciiLowerCode n
  | fold, n => Text.lowerCode n

/-- The other small letters that a mode takes for the same letter. -/
def siblings : CaseMode → Nat → List Nat
  | fold, n => Text.capitalSiblings n
  | _, _ => []

/-- Whether a code point is a letter with a case in the sense of a mode. -/
def isCased : CaseMode → Nat → Bool
  | exact, _ => false
  | asciiFold, n => (0x41 ≤ n && n ≤ 0x5a) || (0x61 ≤ n && n ≤ 0x7a)
  | fold, n => Text.isCased n

/-- Whether there is a letter with a case between two code points. -/
def hasCasedBetween : CaseMode → Nat → Nat → Bool
  | exact, _, _ => false
  | asciiFold, lo, hi => (lo ≤ 0x5a && 0x41 ≤ hi) || (lo ≤ 0x7a && 0x61 ≤ hi)
  | fold, lo, hi => Text.hasCasedBetween lo hi

/-- The code points whose small letter is `n`. -/
def preimages : CaseMode → Nat → List Nat
  | exact, n => [n]
  | asciiFold, n =>
    if 0x61 ≤ n && n ≤ 0x7a then [n, n - 0x20] else if 0x41 ≤ n && n ≤ 0x5a then [] else [n]
  | fold, n => Text.lowerPreimages n

/-- Whether a code point is the character `n` to a mode. -/
def same (mode : CaseMode) (n c : Nat) : Bool :=
  if mode.isCased n then
    let small := mode.lower n
    mode.lower c == small || (mode.siblings small).contains (mode.lower c)
  else c == n

end CaseMode

/-- A member of a class: a code point, a range of them, or a named class. -/
inductive ClassItem where
  | code (n : Nat)
  | range (first last : Nat)
  | category (c : Category) (negated : Bool)
  deriving DecidableEq, Repr

namespace ClassItem

/-- The first code point beyond the basic plane. -/
def planeEnd : Nat := 0x10000

/-- Whether a character belongs to a named class or, with `negated`, does not. -/
def inCategory (ascii : Bool) (c : Category) (negated : Bool) (n : Nat) : Bool :=
  let x := Char.ofNat n
  (if ascii then c.holdsAscii x else c.holds x) != negated

/-- Whether a code point is a member, letters being taken as they are. -/
def holds (ascii : Bool) : ClassItem → Nat → Bool
  | code m, n => n == m
  | range first last, n => first ≤ n && n ≤ last
  | category c negated, n => inCategory ascii c negated n

/-- Whether letters with a case, or code points beyond the basic plane, are among the members. -/
def isCased (mode : CaseMode) : ClassItem → Bool
  | code n => planeEnd ≤ n || mode.isCased n
  | range first last => planeEnd ≤ last || mode.hasCasedBetween first last
  | category _ _ => false

/-- Whether some code point of a range in the basic plane has a small letter that is `n` to a
mode. -/
def rangeFolds (mode : CaseMode) (first last n : Nat) : Bool :=
  (n :: mode.siblings n).any fun m =>
    (mode.preimages m).any fun k => first ≤ k && k ≤ last && k < planeEnd

/--
Whether a small letter is a member without regard to case. Beyond the basic
plane only the letter and, for a range, its capital are looked at.
-/
def holdsFolded (mode : CaseMode) (ascii : Bool) : ClassItem → Nat → Bool
  | code m, n =>
    let small := mode.lower m
    if planeEnd ≤ small then n == m
    else n == small || (mode.siblings small).contains n
  | range first last, n =>
    let between (k : Nat) : Bool := first ≤ k && k ≤ last
    rangeFolds mode first last n ||
      (planeEnd ≤ last && (between n || between (Text.upperCode n)))
  | category c negated, n => inCategory ascii c negated n

end ClassItem

/-- A test of a single character. -/
inductive CharTest where
  /-- Every character passes. -/
  | any
  /-- Every character but a line feed passes. -/
  | notNewline
  /-- The character with a code point passes or, with `negated`, every other one. -/
  | code (negated : Bool) (mode : CaseMode) (n : Nat)
  /-- The members of a class pass or, with `negated`, all others; `ascii` narrows named classes. -/
  | members (negated : Bool) (mode : CaseMode) (ascii : Bool) (items : List ClassItem)
  deriving DecidableEq, Repr

namespace CharTest

/-- Whether a code point is in a class. -/
def inClass (mode : CaseMode) (ascii : Bool) (items : List ClassItem) (n : Nat) : Bool :=
  if mode ≠ .exact && items.any (·.isCased mode) then
    items.any fun i => i.holdsFolded mode ascii (mode.lower n)
  else items.any fun i => i.holds ascii n

/-- Whether a character passes a test. -/
def passes : CharTest → Char → Bool
  | any, _ => true
  | notNewline, c => c ≠ '\n'
  | code negated mode n, c => mode.same n c.toNat != negated
  | members negated mode ascii items, c => inClass mode ascii items c.toNat != negated

@[simp] theorem passes_code_exact (n : Nat) (c : Char) :
    (code false .exact n).passes c = (c.toNat == n) := by
  simp [passes, CaseMode.same, CaseMode.isCased]

end CharTest

end ProxyMaps.Regex
