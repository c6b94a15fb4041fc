/-
The white space between two words of a scalar that spans lines: blanks stand
for themselves, one line break is folded into a space, and of several line
breaks the first is dropped.
-/
import ProxyMaps.Yaml.Source

namespace ProxyMaps.Yaml

/-- White space between two words. -/
inductive Gap where
  /-- Blanks of one line. -/
  | blanks (s : List Char)
  /-- Line breaks: the first one, if it counts, and those after it. -/
  | breaks (first : Option Char) (more : List Char)
  deriving DecidableEq, Repr

namespace Gap

/-- Whether the gap goes over the end of a line. -/
def spansLines : Gap → Bool
  | blanks _ => false
  | breaks _ _ => true

/-- What the gap stands for. -/
def text : Gap → List Char
  | blanks s => s
  | breaks none more => more
  | breaks (some c) more => if c = '\n' then if more.isEmpty then [' '] else more else c :: more

/-- The gap with one more blank; blanks next to a line break do not count. -/
def addBlank (c : Char) : Gap → Gap
  | blanks s => blanks (s ++ [c])
  | g => g

/-- The gap with one more line break. -/
def addBreak (c : Char) : Gap → Gap
  | blanks _ => breaks (some c) []
  | breaks first more => breaks first (more ++ [c])

/--
The gap that begins with `g` and goes on here, and what follows it. After a
line break no tab may stand left of the column `indent`.
-/
def read? (indent : Nat) (g : Gap) : Source → Option (Gap × Source)
  | [] => some (g, [])
  | c :: rest =>
    if isBlank c.char then
      if g.spansLines && c.char = '\t' && c.column < indent then none
      else read? indent (g.addBlank c.char) rest
    else if isBreak c.char then read? indent (g.addBreak c.char) rest
    else some (g, c :: rest)

end Gap

end ProxyMaps.Yaml
