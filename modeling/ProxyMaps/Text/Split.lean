/-
Cutting texts: at white space, at the ends of lines, and at a character.

White space is that of Unicode together with the four ASCII separators 1C to 1F;
the zero width space and the byte order mark are not in it.
-/

namespace ProxyMaps.Text

/-- Whether a character is white space. -/
def isBlank (c : Char) : Bool :=
  let n := c.toNat
  (0x09 ≤ n && n ≤ 0x0d) || (0x1c ≤ n && n ≤ 0x20) || n == 0x85 || n == 0xa0 || n == 0x1680 ||
    (0x2000 ≤ n && n ≤ 0x200a) || n == 0x2028 || n == 0x2029 || n == 0x202f || n == 0x205f ||
    n == 0x3000

/-- The text without its leading white space. -/
def trimLeft (s : List Char) : List Char := s.dropWhile isBlank

/-- The text without its trailing white space. -/
def trimRight (s : List Char) : List Char := (s.reverse.dropWhile isBlank).reverse

/-- The text without leading and trailing white space. -/
def trim (s : List Char) : List Char := trimRight (trimLeft s)

/--
The words of a text, in order: its longest runs without white space. `word`
holds the letters of the word being read, last first.
-/
def wordsFrom (word : List Char) : List Char → List (List Char)
  | [] => if word.isEmpty then [] else [word.reverse]
  | c :: rest =>
    if isBlank c then
      if word.isEmpty then wordsFrom [] rest else word.reverse :: wordsFrom [] rest
    else wordsFrom (c :: word) rest

/-- The words of a text: its longest runs without white space, in order. -/
def words (s : List Char) : List (List Char) := wordsFrom [] s

end ProxyMaps.Text

namespace ProxyMaps.Text.Line

/-- The text with every CR LF pair and every single CR turned into LF. -/
def normalize : List Char → List Char
  | '\r' :: '\n' :: rest => '\n' :: normalize rest
  | '\r' :: rest => '\n' :: normalize rest
  | c :: rest => c :: normalize rest
  | [] => []

end ProxyMaps.Text.Line

namespace ProxyMaps.Text

/-- The text before and after the first `sep`, or nothing if there is none. -/
def cutFirst? (sep : Char) : List Char → Option (List Char × List Char)
  | [] => none
  | c :: rest =>
    if c = sep then some ([], rest)
    else (cutFirst? sep rest).map fun p => (c :: p.1, p.2)

/-- The text before and after the last `sep`, or nothing if there is none. -/
def cutLast? (sep : Char) (s : List Char) : Option (List Char × List Char) :=
  (cutFirst? sep s.reverse).map fun p => (p.2.reverse, p.1.reverse)

end ProxyMaps.Text
