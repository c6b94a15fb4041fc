/-
Characters by their names.

The names are data of the Unicode standard, which has more of them with every
version. What reads names takes the table as a parameter that the class
`CharacterNames` hands on, so what is proved of it holds for any table. The
one table that stands here has the printable characters of ASCII.
-/

namespace ProxyMaps.Text

/-- A table of characters by their names. -/
class CharacterNames where
  find? : List Char → Option Char

namespace CharacterNames

/-- The names of the characters from the space to the sign in front of the letters. -/
def firstSigns : List String := [
  "SPACE", "EXCLAMATION MARK", "QUOTATION MARK", "NUMBER SIGN", "DOLLAR SIGN", "PERCENT SIGN",
  "AMPERSAND", "APOSTROPHE", "LEFT PARENTHESIS", "RIGHT PARENTHESIS", "ASTERISK", "PLUS SIGN",
  "COMMA", "HYPHEN-MINUS", "FULL STOP", "SOLIDUS", "DIGIT ZERO", "DIGIT ONE", "DIGIT TWO",
  "DIGIT THREE", "DIGIT FOUR", "DIGIT FIVE", "DIGIT SIX", "DIGIT SEVEN", "DIGIT EIGHT",
  "DIGIT NINE", "COLON", "SEMICOLON", "LESS-THAN SIGN", "EQUALS SIGN", "GREATER-THAN SIGN",
  "QUESTION MARK", "COMMERCIAL AT"]

/-- The names of the signs between the capital and the small letters. -/
def middleSigns : List String := [
  "LEFT SQUARE BRACKET", "REVERSE SOLIDUS", "RIGHT SQUARE BRACKET", "CIRCUMFLEX ACCENT",
  "LOW LINE", "GRAVE ACCENT"]

/-- The names of the signs behind the letters. -/
def lastSigns : List String := [
  "LEFT CURLY BRACKET", "VERTICAL LINE", "RIGHT CURLY BRACKET", "TILDE"]

/-- The capital letters. -/
def capitals : List Char := "ABCDEFGHIJKLMNOPQRSTUVWXYZ".toList

/-- The names of the printable characters of ASCII, in their order. -/
def asciiNames : List String :=
  firstSigns ++ capitals.map (fun c => "LATIN CAPITAL LETTER " ++ c.toString) ++
    middleSigns ++ capitals.map (fun c => "LATIN SMALL LETTER " ++ c.toString) ++ lastSigns

/-- The printable characters of ASCII by their names, in letters of either case. -/
instance (priority := low) ascii : CharacterNames where
  find? name :=
    let name := String.ofList (name.map Char.toUpper)
    (asciiNames.findIdx? (· = name)).map fun i => Char.ofNat (' '.toNat + i)

end CharacterNames

end ProxyMaps.Text
