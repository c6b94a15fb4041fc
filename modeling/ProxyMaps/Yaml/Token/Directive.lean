/-
Tokens with a small syntax of their own: directives, tags, anchors and
aliases.
-/
import ProxyMaps.Text.Digit
import ProxyMaps.Yaml.Source
import ProxyMaps.Yaml.Token

namespace ProxyMaps.Yaml.Token

/-! ### Anchors and aliases -/

/-- The indicators that may follow the name of an anchor at once. -/
def afterName : List Char := ['?', ':', ',', ']', '\x7d', '%', '@', '\x60']

/-- The name of an anchor or an alias, and what follows it. -/
def name? (s : Source) : Option (String × Source) :=
  let name := s.textWhile isWordChar
  let rest := s.skipWhile isWordChar
  if name.isEmpty || !(rest.endsWord || rest.nextIn afterName) then none
  else some (String.ofList name, rest)

/-! ### Tags -/

/-- The number that two hexadecimal digits write after a percent sign. -/
def octet? : Source → Option (Nat × Source)
  | p :: a :: b :: rest => do
    if p.char ≠ '%' then none
    else
      let a ← Text.hexValue? a.char
      let b ← Text.hexValue? b.char
      some (a * 16 + b, rest)
  | _ => none

/-- The number of bytes of the character that a byte begins in UTF-8. -/
def sequenceLength? (b : Nat) : Option Nat :=
  if b < 0x80 then some 1
  else if 0xc0 ≤ b && b < 0xe0 then some 2
  else if 0xe0 ≤ b && b < 0xf0 then some 3
  else if 0xf0 ≤ b && b < 0xf8 then some 4
  else none

/-- Some bytes in a row that go on with a character. -/
def continuation? : Nat → Source → Option (List Nat × Source)
  | 0, s => some ([], s)
  | n + 1, s => do
    let (b, s) ← octet? s
    if 0x80 ≤ b && b < 0xc0 then
      let (bs, s) ← continuation? n s
      return (b :: bs, s)
    else none

/-- The bytes of the escaped character here, and what follows it. -/
def escaped? (s : Source) : Option (List UInt8 × Source) := do
  let (b, s) ← octet? s
  let n ← sequenceLength? b
  let (bs, s) ← continuation? (n - 1) s
  return ((b :: bs).map UInt8.ofNat, s)

/-- Whether a character may stand in a tag. -/
def isTagChar (verbatim : Bool) (c : Char) : Bool :=
  isWordChar c || ";/?:@&=+$.%!~*'()".toList.contains c || (verbatim && [',', '[', ']'].contains c)

/-- The bytes of a tag, and what follows it. Every round takes a character, so the fuel never
runs out. -/
def tagBytes? (verbatim : Bool) : Nat → Source → Option (List UInt8 × Source)
  | 0, _ => none
  | _ + 1, [] => some ([], [])
  | fuel + 1, c :: rest =>
    if !isTagChar verbatim c.char then some ([], c :: rest)
    else do
      let (bytes, s) ← if c.char = '%' then escaped? (c :: rest)
        else some ([UInt8.ofNat c.char.toNat], rest)
      let (more, s) ← tagBytes? verbatim fuel s
      return (bytes ++ more, s)

/--
The text of a tag after the characters `start`, and what follows it. There
has to be some text; it counts up to a NUL.
-/
def tagText? (verbatim : Bool) (start : List Char) (s : Source) : Option (String × Source) := do
  let (bytes, rest) ← tagBytes? verbatim (s.length + 1) s
  if start.isEmpty && bytes.isEmpty then none
  else
    let bytes := (String.ofList (start.drop 1)).toUTF8.toList ++ bytes
    let text ← String.fromUTF8? ⟨(bytes.takeWhile (· ≠ 0)).toArray⟩
    return (text, rest)

/-- The handle of a tag: an exclamation mark, a name, and a second mark if one stands there. -/
def handle? : Source → Option (List Char × Source)
  | [] => none
  | c :: rest =>
    if c.char ≠ '!' then none
    else
      let name := Source.textWhile isWordChar rest
      match Source.skipWhile isWordChar rest with
      | d :: after =>
        if d.char = '!' then some ('!' :: name ++ ['!'], after) else some ('!' :: name, d :: after)
      | [] => some ('!' :: name, [])

/-- Whether a handle has two exclamation marks. -/
def isFullHandle (handle : List Char) : Bool := 1 < handle.length && handle.getLast? = some '!'

/-- The tag between angle brackets, after the first of them. -/
def verbatimTag? (s : Source) : Option (Token × Source) := do
  let (text, s) ← tagText? true [] s
  match s with
  | c :: rest => if c.char = '>' then some (.tag "" text, rest) else none
  | [] => none

/-- The tag that starts here with a handle. -/
def shortTag? (s : Source) : Option (Token × Source) := do
  let (handle, s) ← handle? s
  if isFullHandle handle then
    let (text, s) ← tagText? false [] s
    return (.tag (String.ofList handle) text, s)
  else
    let (text, s) ← tagText? false handle s
    return (if text.isEmpty then .tag "" "!" else .tag "!" text, s)

/-- The tag that starts here, and what follows it: a blank, a break, or a comma of a flow
collection. -/
def tag? (inFlow : Bool) (s : Source) : Option (Token × Source) := do
  let after : Source := s.drop 1
  let (t, s) ← if after.nextIn ['<'] then verbatimTag? (s.drop 2) else shortTag? s
  if s.endsWord || (inFlow && s.nextIn [',']) then some (t, s) else none

/-! ### Directives -/

/-- The numbers of a version have at most this many digits. -/
def versionDigits : Nat := 9

/-- A number of a version, and what follows it. -/
def versionNumber? (s : Source) : Option (Nat × Source) :=
  let ds := s.textWhile Char.isDigit
  if ds.isEmpty || versionDigits < ds.length then none
  else some (ds.foldl (fun n d => n * 10 + (d.toNat - 0x30)) 0, s.skipWhile Char.isDigit)

/-- The version that a directive asks for, and what follows it. -/
def version? (s : Source) : Option (Token × Source) := do
  let (major, s) ← versionNumber? s.skipBlanks
  if !s.nextIn ['.'] then none
  else
    let (minor, s) ← versionNumber? (s.drop 1)
    return (.version major minor, s)

/-- The handle that a directive introduces, and what follows it. -/
def handleDirective? (s : Source) : Option (Token × Source) := do
  let (handle, s) ← handle? s.skipBlanks
  if !(isFullHandle handle || handle = ['!']) then none
  else
    match s with
    | [] => none
    | c :: _ =>
      if !isBlank c.char then none
      else
        let (text, s) ← tagText? true [] s.skipBlanks
        if s.endsWord then some (.tagHandle (String.ofList handle) text, s) else none

/-- The directive whose percent sign has been read, and the line after it. -/
def directive? (s : Source) : Option (Token × Source) := do
  let name := String.ofList (s.textWhile isWordChar)
  let rest := s.skipWhile isWordChar
  if !rest.endsWord then none
  else
    let (t, s) ← if name = "YAML" then version? rest
      else if name = "TAG" then handleDirective? rest
      else none
    let s ← s.endOfLine?
    return (t, s.drop 1)

end ProxyMaps.Yaml.Token
