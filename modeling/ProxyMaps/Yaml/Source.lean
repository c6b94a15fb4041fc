/-
The characters of a YAML text with their places. Line breaks are one character
each: the line feed, or one of the two separators of Unicode, which the
language keeps apart.
-/
import ProxyMaps.Text.Split

namespace ProxyMaps.Yaml

/-- A character and its place in the text. -/
structure Cell where
  char : Char
  /-- The number of line breaks in front of it. -/
  line : Nat
  /-- The number of characters in front of it on its line. -/
  column : Nat
  /-- The number of characters in front of it. -/
  index : Nat
  deriving DecidableEq, Repr

/-- What is left of a text. -/
abbrev Source := List Cell

/-- Whether a character separates words on a line. -/
def isBlank (c : Char) : Bool := c = ' ' || c = '\t'

/-- Whether a character ends a line. -/
def isBreak (c : Char) : Bool := c = '\n' || c = '\u2028' || c = '\u2029'

/-- Whether a character may stand in a text at all. -/
def isReadable (c : Char) : Bool :=
  let n := c.toNat
  n = 0x09 || n = 0x0a || n = 0x0d || (0x20 ≤ n && n ≤ 0x7e) || n = 0x85 ||
    (0xa0 ≤ n && n ≤ 0xd7ff) || (0xe000 ≤ n && n ≤ 0xfffd) || 0x10000 ≤ n

/-- The mark that may stand in front of a text to say how it is encoded. -/
def byteOrderMark : Char := '\ufeff'

/-- Whether a character is a letter, a digit, a hyphen or an underscore of ASCII. -/
def isWordChar (c : Char) : Bool := c.isAlphanum || c = '-' || c = '_'

namespace Source

/-- The cells of some characters, the first of them at a given place. -/
def ofChars (line column index : Nat) : List Char → Source
  | [] => []
  | c :: rest =>
    ⟨c, line, column, index⟩ ::
      if isBreak c then ofChars (line + 1) 0 (index + 1) rest
      else ofChars line (column + 1) (index + 1) rest

/-- The source of a text, or nothing if a character may not stand in one. -/
def ofText? (s : String) : Option Source :=
  let cs := match s.toList with
    | c :: rest => if c = byteOrderMark then rest else c :: rest
    | [] => []
  if cs.all isReadable then
    some (ofChars 0 0 0 ((Text.Line.normalize cs).map fun c => if c = '\u0085' then '\n' else c))
  else none

/-- Whether the next character is one of some. -/
def nextIn (s : Source) (cs : List Char) : Bool :=
  match s with
  | c :: _ => cs.contains c.char
  | [] => false

/-- Whether a word would end here: at a blank, at a line break, or at the end of the text. -/
def endsWord : Source → Bool
  | [] => true
  | c :: _ => isBlank c.char || isBreak c.char

/-- Whether a line ends here. -/
def endsLine : Source → Bool
  | [] => true
  | c :: _ => isBreak c.char

/-- The source after the cells that pass a test. -/
def skipWhile (p : Char → Bool) (s : Source) : Source := s.dropWhile fun c => p c.char

/-- The characters in front of the first one that fails a test. -/
def textWhile (p : Char → Bool) (s : Source) : List Char :=
  (s.takeWhile fun c => p c.char).map Cell.char

/-- The source after the blanks here. -/
def skipBlanks (s : Source) : Source := s.skipWhile isBlank

/-- The source at the end of this line if a comment or nothing is left of it. -/
def endOfLine? (s : Source) : Option Source :=
  let s := s.skipBlanks
  let s := if s.nextIn ['#'] then s.skipWhile fun c => !isBreak c else s
  if s.endsLine then some s else none

/-- Whether a line starts here that is three times `mark` and no longer word. -/
def startsMark (mark : Char) : Source → Bool
  | a :: b :: c :: rest =>
    a.column = 0 && a.char = mark && b.char = mark && c.char = mark && endsWord rest
  | _ => false

/-- Whether a line starts here that begins or ends a document. -/
def startsDocumentMark (s : Source) : Bool := s.startsMark '-' || s.startsMark '.'

end Source

end ProxyMaps.Yaml
