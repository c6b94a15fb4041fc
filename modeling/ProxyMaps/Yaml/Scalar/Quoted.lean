/-
Scalars in quotes. Between single quotes only the quote itself is special: it
is written twice. Between double quotes a backslash begins an escape, and at
the end of a line it takes the line break away.
-/
import ProxyMaps.Text.Digit
import ProxyMaps.Yaml.Scalar.Gap

namespace ProxyMaps.Yaml.Quoted

/-- The two kinds of quotes. -/
inductive Style where
  | single
  | double
  deriving DecidableEq, Repr

/-- The quote of a style. -/
def Style.mark : Style → Char
  | .single => '\''
  | .double => '"'

/-- The character of an escape of one letter. -/
def letterEscape? (c : Char) : Option Char :=
  match c with
  | '0' => some '\x00'
  | 'a' => some '\x07'
  | 'b' => some '\x08'
  | 't' | '\t' => some '\t'
  | 'n' => some '\n'
  | 'v' => some '\x0b'
  | 'f' => some '\x0c'
  | 'r' => some '\r'
  | 'e' => some '\x1b'
  | ' ' | '"' | '/' | '\\' => some c
  | 'N' => some '\u0085'
  | '_' => some '\u00a0'
  | 'L' => some '\u2028'
  | 'P' => some '\u2029'
  | _ => none

/-- The number of digits of a numbered escape. -/
def escapeWidth? (c : Char) : Option Nat :=
  match c with
  | 'x' => some 2
  | 'u' => some 4
  | 'U' => some 8
  | _ => none

/-- The character that hexadecimal digits number; surrogates are none. -/
def numbered? (digits : List Char) : Option Char := do
  let ds ← digits.mapM Text.hexValue?
  let n := ds.foldl (fun n d => n * 16 + d) 0
  if (0xd800 ≤ n && n ≤ 0xdfff) || 0x10ffff < n then none else some (Char.ofNat n)

/-- The character of an escape, after its backslash, and the number of digits after its letter. -/
def escape? : Source → Option (Char × Nat)
  | [] => none
  | c :: rest =>
    match escapeWidth? c.char with
    | some width =>
      let digits := (rest.take width).map Cell.char
      if digits.length = width then (numbered? digits).map fun ch => (ch, width) else none
    | none => (letterEscape? c.char).map fun ch => (ch, 0)

/-- What ends a word. -/
inductive WordEnd where
  | closed
  | gap (g : Gap)
  deriving DecidableEq, Repr

/-- The word here, how it ends, and what follows. The text may not end first. -/
def word? (style : Style) : Source → Option (List Char × WordEnd × Source)
  | [] => none
  | c :: rest =>
    if isBlank c.char || isBreak c.char then some ([], .gap (.blanks []), c :: rest)
    else if c.char = style.mark then
      match style, rest with
      | .single, d :: more =>
        if d.char = '\'' then (word? style more).map fun p => ('\'' :: p.1, p.2)
        else some ([], .closed, rest)
      | _, _ => some ([], .closed, rest)
    else if style = .double && c.char = '\\' then
      match rest with
      | [] => none
      | d :: more =>
        if isBreak d.char then some ([], .gap (.breaks none []), more)
        else
          match escape? (d :: more) with
          | none => none
          | some (ch, digits) => (word? style (more.drop digits)).map fun p => (ch :: p.1, p.2)
    else (word? style rest).map fun p => (c.char :: p.1, p.2)
termination_by s => s.length
decreasing_by all_goals (simp_all; try omega)

/-- The text up to the closing quote, and what follows it. Every round takes a character, so the
fuel never runs out. -/
def text? (style : Style) : Nat → Source → Option (List Char × Source)
  | 0, _ => none
  | fuel + 1, s =>
    if s.startsDocumentMark then none
    else do
      let (word, ending, s) ← word? style s
      match ending with
      | .closed => return (word, s)
      | .gap g =>
        let (g, s) ← Gap.read? 0 g s
        let (more, s) ← text? style fuel s
        return (word ++ g.text ++ more, s)

/-- The scalar whose opening quote has been read, and what follows it. -/
def read? (style : Style) (s : Source) : Option (List Char × Source) :=
  text? style (s.length + 1) s

end ProxyMaps.Yaml.Quoted
