/-
The lexemes of pattern text. What stands between two lexemes is comments and,
in verbose parts, blanks.

A lexeme depends on the characters at its place and on whether its part of
the pattern is verbose, and on nothing else but the table of characters that
escapes may name. So the lexemes of a pattern can
be read from left to right, with a stack that tells for every open group
whether it is verbose.
-/
import ProxyMaps.Regex.Syntax
import ProxyMaps.Decimal.Integer
import ProxyMaps.Text.CharacterNames
import ProxyMaps.Text.Identifier
import ProxyMaps.Text.Split

namespace ProxyMaps.Regex

/-- Why a text is no pattern. -/
inductive Fault where
  /-- The text breaks the grammar of patterns. -/
  | malformed
  /-- A number of repetitions is too large. -/
  | repetitionTooLarge
  /-- A number of repetitions has too many digits to be read. -/
  | numberTooLong
  /-- The switches for ASCII and for all scripts are both on. -/
  | flagConflict
  deriving DecidableEq, Repr

/-- A group as the text refers to it. -/
inductive GroupRef where
  | number (n : Nat)
  | name (s : List Char)
  deriving DecidableEq, Repr

/-- The kinds of groups that pattern text opens. -/
inductive Opening where
  /-- A group that keeps its text, perhaps under a name. -/
  | capture (name : Option (List Char))
  /-- A group that only groups, with switches that it turns on and off. -/
  | plain (on off : Flags)
  | atomic
  | look (behind : Bool) (negated : Bool)
  | ifGroup (ref : GroupRef)
  deriving DecidableEq, Repr

/-- The lexemes of pattern text. -/
inductive Lexeme where
  /-- A code point that stands for itself. -/
  | code (n : Nat)
  | anyChar
  | members (negated : Bool) (items : List ClassItem)
  /-- The beginning of the text, or of a line. -/
  | caret
  /-- The end of the text, or of a line. -/
  | dollar
  | textStart
  | textEnd
  | wordEdge (negated : Bool)
  | backref (ref : GroupRef)
  /-- The marks of a repetition of what stands in front. -/
  | loop (min : Nat) (max : Option Nat) (mode : LoopMode)
  | bar
  | opening (o : Opening)
  | close
  /-- Switches for the whole pattern. -/
  | globalFlags (on : Flags)
  /-- No lexeme: the text ends here in a fault. -/
  | bad (f : Fault)
  deriving DecidableEq, Repr

namespace Lexeme

open Text (CharacterNames)

variable [CharacterNames]

/-- Repetitions have to stay below this number. -/
def maxLoop : Nat := 0xffffffff

/-- Whether a character is a blank of verbose patterns. -/
def isBlank (c : Char) : Bool := c = ' ' || ('\t' ≤ c && c ≤ '\r')

/-- Whether a character is an octal digit. -/
def isOctal (c : Char) : Bool := '0' ≤ c && c ≤ '7'

/-- Whether a character is a letter of ASCII. -/
def isAsciiLetter (c : Char) : Bool := ('a' ≤ c && c ≤ 'z') || ('A' ≤ c && c ≤ 'Z')

/-- The number of digits in a base. -/
def ofDigits (base : Nat) (ds : List Char) : Nat :=
  Decimal.Integer.ofDigits base (ds.filterMap Text.asciiDigitValue?)

/-- At most `n` characters from the front that pass a test, and what follows them. -/
def takeUpTo (p : Char → Bool) : Nat → List Char → List Char × List Char
  | 0, s => ([], s)
  | _ + 1, [] => ([], [])
  | n + 1, c :: rest =>
    if p c then
      let (cs, rest) := takeUpTo p n rest
      (c :: cs, rest)
    else ([], c :: rest)

/-- The code point of exactly `n` hexadecimal digits. -/
def hexEscape? (n : Nat) (s : List Char) : Option (Nat × List Char) :=
  let (ds, rest) := takeUpTo Text.isHexDigit n s
  let code := ofDigits 16 ds
  if ds.length = n && code ≤ 0x10ffff then some (code, rest) else none

/-- The code point of an escape that means the same everywhere, after its backslash. -/
def commonEscape? : Char → Option Nat
  | 'a' => some 0x07
  | 'f' => some 0x0c
  | 'n' => some 0x0a
  | 'r' => some 0x0d
  | 't' => some 0x09
  | 'v' => some 0x0b
  | '\\' => some 0x5c
  | _ => none

/-- The named class of an escape, and whether it is the contrary that is named. -/
def categoryEscape? : Char → Option (Category × Bool)
  | 'd' => some (.digit, false)
  | 'D' => some (.digit, true)
  | 's' => some (.space, false)
  | 'S' => some (.space, true)
  | 'w' => some (.word, false)
  | 'W' => some (.word, true)
  | _ => none

/-- A name up to the character that ends it; a name has at least one character. -/
def name? (ending : Char) (s : List Char) : Option (List Char × List Char) :=
  match Text.cutFirst? ending s with
  | some (name, rest) => if name.isEmpty then none else some (name, rest)
  | none => none

/-- The code point of a name between braces; there is no backslash in any name. -/
def namedEscape? : List Char → Option (Nat × List Char)
  | '\x7b' :: rest => do
    let (name, rest) ← name? '\x7d' rest
    if name.contains '\\' then none
    else return ((← CharacterNames.find? name).toNat, rest)
  | _ => none

/-- The code point of an escape by number or by name, or of a character that needs no escape. -/
def codeEscape? (c : Char) (rest : List Char) : Option (Nat × List Char) :=
  if c = 'x' then hexEscape? 2 rest
  else if c = 'u' then hexEscape? 4 rest
  else if c = 'U' then hexEscape? 8 rest
  else if c = 'N' then namedEscape? rest
  else if isAsciiLetter c || c.isDigit then none
  else some (c.toNat, rest)

/-- The greatest code point of an octal escape. -/
def maxOctal : Nat := 255

/-- What an escape inside a class stands for, after its backslash. -/
def classEscape? (c : Char) (rest : List Char) : Option (ClassItem × List Char) :=
  if c = 'b' then some (.code 0x08, rest)
  else
    match commonEscape? c, categoryEscape? c with
    | some n, _ => some (.code n, rest)
    | none, some (k, negated) => some (.category k negated, rest)
    | none, none =>
      if isOctal c then
        let (ds, rest) := takeUpTo isOctal 2 rest
        let n := ofDigits 8 (c :: ds)
        if n ≤ maxOctal then some (.code n, rest) else none
      else (codeEscape? c rest).map fun p => (.code p.1, p.2)

/-- One end of a range, or a member of a class. -/
def classItem? : List Char → Option (ClassItem × List Char)
  | [] => none
  | '\\' :: c :: rest => classEscape? c rest
  | ['\\'] => none
  | c :: rest => some (.code c.toNat, rest)

/-- The range between two members, which have to be code points in order. -/
def range? : ClassItem → ClassItem → Option ClassItem
  | .code first, .code last => if first ≤ last then some (.range first last) else none
  | _, _ => none

/--
The members of a class up to its closing bracket; a bracket in the first place
is a member. `fuel` bounds their number.
-/
def classItems? : Nat → Bool → List Char → Option (List ClassItem × List Char)
  | 0, _, _ => none
  | _ + 1, false, ']' :: rest => some ([], rest)
  | fuel + 1, _, s => do
    let (item, rest) ← classItem? s
    match rest with
    | '-' :: ']' :: rest => return ([item, .code '-'.toNat], rest)
    | '-' :: rest =>
      let (last, rest) ← classItem? rest
      let r ← range? item last
      let (items, rest) ← classItems? fuel false rest
      return (r :: items, rest)
    | rest =>
      let (items, rest) ← classItems? fuel false rest
      return (item :: items, rest)

/-- The class after an opening bracket, each member once. -/
def class? (s : List Char) : Option (Lexeme × List Char) := do
  let (negated, body) := match s with
    | '^' :: rest => (true, rest)
    | _ => (false, s)
  let (items, rest) ← classItems? (body.length + 1) true body
  return (members negated items.eraseDups, rest)

/-- The lexeme of an escape that starts with a digit other than zero. -/
def digitEscape (d : Char) (rest : List Char) : Lexeme × List Char :=
  match rest with
  | e :: rest' =>
    if e.isDigit then
      match rest' with
      | f :: rest'' =>
        if isOctal d && isOctal e && isOctal f then
          let n := ofDigits 8 [d, e, f]
          if n ≤ maxOctal then (code n, rest'') else (bad .malformed, [])
        else (backref (.number (ofDigits 10 [d, e])), rest')
      | [] => (backref (.number (ofDigits 10 [d, e])), [])
    else (backref (.number (ofDigits 10 [d])), rest)
  | [] => (backref (.number (ofDigits 10 [d])), [])

/-- The lexeme of an escape, after its backslash. -/
def escape (c : Char) (rest : List Char) : Lexeme × List Char :=
  if c = 'A' then (textStart, rest)
  else if c = 'Z' then (textEnd, rest)
  else if c = 'b' then (wordEdge false, rest)
  else if c = 'B' then (wordEdge true, rest)
  else
    match categoryEscape? c, commonEscape? c with
    | some (k, negated), _ => (members false [.category k negated], rest)
    | none, some n => (code n, rest)
    | none, none =>
      if c = '0' then
        let (ds, rest) := takeUpTo isOctal 2 rest
        (code (ofDigits 8 ds), rest)
      else if c.isDigit then digitEscape c rest
      else
        match codeEscape? c rest with
        | some (n, rest) => (code n, rest)
        | none => (bad .malformed, [])

/-- The mode that the mark after a repetition asks for. -/
def loopMode : List Char → LoopMode × List Char
  | '?' :: rest => (.reluctant, rest)
  | '+' :: rest => (.possessive, rest)
  | rest => (.greedy, rest)

/-- The lexeme of a repetition between two numbers of times. -/
def loopOf (min : Nat) (max : Option Nat) (rest : List Char) : Lexeme × List Char :=
  let (mode, rest) := loopMode rest
  (loop min max mode, rest)

/-- The bounds between braces after the opening one: digits, or two runs of them with a comma. -/
def bounds? (s : List Char) : Option (List Char × List Char × List Char) :=
  let low := s.takeWhile Char.isDigit
  match s.dropWhile Char.isDigit with
  | '\x7d' :: rest => if low.isEmpty then none else some (low, low, rest)
  | ',' :: rest =>
    match rest.dropWhile Char.isDigit with
    | '\x7d' :: rest' => some (low, rest.takeWhile Char.isDigit, rest')
    | _ => none
  | _ => none

/-- The number of repetitions that digits write. -/
def loopBound (ds : List Char) : Except Fault Nat :=
  if Decimal.maxDigits < ds.length then .error .numberTooLong
  else
    let n := ofDigits 10 ds
    if maxLoop ≤ n then .error .repetitionTooLarge else .ok n

/-- The numbers of times between braces; without a second number there is no upper limit. -/
def loopBounds (low high : List Char) : Except Fault (Nat × Option Nat) := do
  let min ← loopBound low
  if high.isEmpty then return (min, none)
  else
    let max ← loopBound high
    if max < min then .error .malformed else return (min, some max)

/-- The lexeme that starts with a brace: a repetition if bounds follow, else the brace itself. -/
def brace (s : List Char) : Lexeme × List Char :=
  match bounds? s with
  | none => (code 0x7b, s)
  | some (low, high, rest) =>
    if rest = ['\\'] then (bad .malformed, [])
    else
      match loopBounds low high with
      | .ok (min, max) => loopOf min max rest
      | .error f => (bad f, [])

/-- A name that is an identifier, up to the character that ends it. -/
def identifier? (ending : Char) (s : List Char) : Option (List Char × List Char) :=
  (name? ending s).filter fun p => Text.isIdentifier p.1

/-- Groups have numbers below this one. -/
def maxGroups : Nat := 0x7fffffff

/-- The group that a condition names, by its name or its number. -/
def condition? (s : List Char) : Option (GroupRef × List Char) := do
  let (text, rest) ← name? ')' s
  if text.contains '\\' then none
  else if Text.isIdentifier text then return (.name text, rest)
  else
    match Decimal.Integer.read .decimal text with
    | .ok n => if 0 < n && n < maxGroups then some (.number n.toNat, rest) else none
    | .error _ => none

/-- What follows a comment, which ends at the first bracket that no backslash stands in front of. -/
def skipComment? : List Char → Option (List Char)
  | ')' :: rest => some rest
  | '\\' :: _ :: rest => skipComment? rest
  | _ :: rest => skipComment? rest
  | [] => none

/-- What follows a comment of a verbose part, which ends with its line. -/
def skipLine : List Char → List Char
  | '\n' :: rest => rest
  | '\\' :: _ :: rest => skipLine rest
  | ['\\'] => ['\\']
  | _ :: rest => skipLine rest
  | [] => []

/-- The switch of a letter. -/
def flag? : Char → Option Flags
  | 'i' => some { ignoreCase := true }
  | 'm' => some { multiline := true }
  | 's' => some { dotAll := true }
  | 'x' => some { verbose := true }
  | 'a' => some { ascii := true }
  | 'u' => some { unicode := true }
  | 't' => some { template := true }
  | _ => none

/-- The switches of the letters at the front of a text, at least one, and what follows them. -/
def flags? (s : List Char) : Option (Flags × List Char) :=
  let letters := s.takeWhile fun c => (flag? c).isSome
  if letters.isEmpty then none
  else some ((letters.filterMap flag?).foldl Flags.union {}, s.dropWhile fun c => (flag? c).isSome)

/-- The lexeme of a group that turns switches on and off, if it may. -/
def switching (on off : Flags) (rest : List Char) : Lexeme × List Char :=
  if on.template || off.template || off.ascii || off.unicode || on.meets off then
    (bad .malformed, [])
  else (opening (.plain on off), rest)

/-- The lexeme of switches turned off, and perhaps others turned on, after the minus sign. -/
def turnOff (on : Flags) (s : List Char) : Lexeme × List Char :=
  match flags? s with
  | some (off, ':' :: rest) => switching on off rest
  | _ => (bad .malformed, [])

/-- The lexeme of switches, after the question mark. -/
def flags (s : List Char) : Lexeme × List Char :=
  match s with
  | '-' :: rest => turnOff {} rest
  | s =>
    match flags? s with
    | some (on, rest) =>
      if on.ascii && on.unicode then (bad .malformed, [])
      else
        match rest with
        | ')' :: rest => (globalFlags on, rest)
        | ':' :: rest => switching on {} rest
        | '-' :: rest => turnOff on rest
        | _ => (bad .malformed, [])
    | none => (bad .malformed, [])

/-- The lexeme of an extension, after its bracket and question mark; a comment has none. -/
def extension (s : List Char) : Option Lexeme × List Char :=
  let fault : Option Lexeme × List Char := (some (bad .malformed), [])
  let openWith (o : Opening) (rest : List Char) : Option Lexeme × List Char :=
    (some (opening o), rest)
  match s with
  | 'P' :: '<' :: rest =>
    match identifier? '>' rest with
    | some (name, rest) => openWith (.capture (some name)) rest
    | none => fault
  | 'P' :: '=' :: rest =>
    match identifier? ')' rest with
    | some (name, rest) => (some (backref (.name name)), rest)
    | none => fault
  | ':' :: rest => openWith (.plain {} {}) rest
  | '#' :: rest =>
    match skipComment? rest with
    | some rest => (none, rest)
    | none => fault
  | '=' :: rest => openWith (.look false false) rest
  | '!' :: rest => openWith (.look false true) rest
  | '<' :: '=' :: rest => openWith (.look true false) rest
  | '<' :: '!' :: rest => openWith (.look true true) rest
  | '(' :: rest =>
    match condition? rest with
    | some (ref, rest) => openWith (.ifGroup ref) rest
    | none => fault
  | '>' :: rest => openWith .atomic rest
  | s =>
    let (l, rest) := flags s
    (some l, rest)

/-- The lexeme at the front of a text, if it is none that is skipped, and what follows it. -/
def next (verbose : Bool) (c : Char) (rest : List Char) : Option Lexeme × List Char :=
  if verbose && isBlank c then (none, rest)
  else if verbose && c = '#' then (none, skipLine rest)
  else
    let single (l : Lexeme) : Option Lexeme × List Char := (some l, rest)
    let wrap (p : Lexeme × List Char) : Option Lexeme × List Char := (some p.1, p.2)
    match c with
    | '\\' =>
      match rest with
      | e :: rest => wrap (escape e rest)
      | [] => single (bad .malformed)
    | '[' => wrap ((class? rest).getD (bad .malformed, []))
    | '*' => wrap (loopOf 0 none rest)
    | '+' => wrap (loopOf 1 none rest)
    | '?' => wrap (loopOf 0 (some 1) rest)
    | '\x7b' => wrap (brace rest)
    | '.' => single anyChar
    | '^' => single caret
    | '$' => single dollar
    | '|' => single bar
    | ')' => single close
    | '(' =>
      match rest with
      | '?' :: rest => extension rest
      | rest => (some (opening (.capture none)), rest)
    | c => single (code c.toNat)

/-- Whether the groups around the next character are verbose, the innermost first. -/
abbrev VerboseStack := List Bool

/-- Whether the part of the pattern at the top of a stack is verbose. -/
def isVerbose (stack : VerboseStack) : Bool := stack.head?.getD false

/-- The stack behind a lexeme. -/
def after (stack : VerboseStack) : Lexeme → VerboseStack
  | opening (.plain on off) => ((isVerbose stack || on.verbose) && !off.verbose) :: stack
  | opening _ => isVerbose stack :: stack
  | close => stack.tail
  | globalFlags on => (isVerbose stack || on.verbose) :: stack.tail
  | _ => stack

/-- The lexemes of a text up to the first fault; `fuel` bounds the steps. -/
def scan : Nat → VerboseStack → List Char → List Lexeme
  | 0, _, _ => []
  | _ + 1, _, [] => []
  | fuel + 1, stack, c :: rest =>
    match next (isVerbose stack) c rest with
    | (none, rest) => scan fuel stack rest
    | (some (bad f), _) => [bad f]
    | (some l, rest) => l :: scan fuel (after stack l) rest

/-- The lexemes of pattern text up to the first fault. -/
def ofPattern (s : List Char) : List Lexeme := scan s.length [false] s

end Lexeme

end ProxyMaps.Regex
