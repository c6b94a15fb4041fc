/-
Plain scalars: text without quotes, which ends at a colon, a comment, an
indicator of the collection around it, or a line that is indented too little.
-/
import ProxyMaps.Yaml.Scalar.Gap

namespace ProxyMaps.Yaml.Plain

/-- The indicators that end a plain scalar inside of a flow collection. -/
def closers : List Char := [',', '[', ']', '\x7b', '\x7d']

/-- The characters that no plain scalar starts with. -/
def indicators : List Char :=
  ['-', '?', ':', '#', '&', '*', '!', '|', '>', '\'', '"', '%', '@', '\x60'] ++ closers

/-- Whether a plain scalar starts here. -/
def starts (inFlow : Bool) : Source → Bool
  | [] => false
  | c :: rest =>
    !(isBlank c.char || isBreak c.char || indicators.contains c.char) ||
      (c.char = '-' && !Source.nextIn rest [' ', '\t']) ||
      (!inFlow && (c.char = '?' || c.char = ':') && !Source.endsWord rest)

/-- The word here, and what follows it. In a flow collection no indicator may follow a colon at
once. -/
def word? (inFlow : Bool) : Source → Option (List Char × Source)
  | [] => some ([], [])
  | c :: rest =>
    if isBlank c.char || isBreak c.char then some ([], c :: rest)
    else if inFlow && c.char = ':' && Source.nextIn rest ('?' :: closers) then none
    else if c.char = ':' && Source.endsWord rest then some ([], c :: rest)
    else if inFlow && closers.contains c.char then some ([], c :: rest)
    else (word? inFlow rest).map fun p => (c.char :: p.1, p.2)

/-- A plain scalar. -/
structure Found where
  text : List Char
  /-- Whether white space with a line break in it follows the scalar. -/
  beforeBreak : Bool
  rest : Source

/--
The rest of a plain scalar after the gap `g`. Lines that go on with it start
at the column `indent` or to the right of it, unless a flow collection is
around it. Every round takes a word, so the fuel never runs out.
-/
def more? (inFlow : Bool) (indent : Nat) : Nat → Gap → Source → Option Found
  | 0, _, _ => none
  | fuel + 1, g, s =>
    if s.startsDocumentMark || s.nextIn ['#'] then some ⟨[], g.spansLines, s⟩
    else do
      let (word, s) ← word? inFlow s
      if word.isEmpty then return ⟨[], g.spansLines, s⟩
      else
        let (next, s) ← Gap.read? indent (.blanks []) s
        match s with
        | [] => return ⟨g.text ++ word, next.spansLines, []⟩
        | c :: _ =>
          if !inFlow && next.spansLines && c.column < indent then
            return ⟨g.text ++ word, true, s⟩
          else
            let found ← more? inFlow indent fuel next s
            return { found with text := g.text ++ word ++ found.text }

/-- The plain scalar that starts here. -/
def read? (inFlow : Bool) (indent : Nat) (s : Source) : Option Found :=
  more? inFlow indent (s.length + 1) (.blanks []) s

end ProxyMaps.Yaml.Plain
