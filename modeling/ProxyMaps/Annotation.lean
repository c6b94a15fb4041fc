/-
Annotations of routes: the names of those that the router looks at, and what it
makes of their values before they are used.
-/
import ProxyMaps.Allowlist
import ProxyMaps.Duration
import ProxyMaps.Route

namespace ProxyMaps.AnnotationName

/-- What the names of the router's annotations begin with. -/
def domain : String := "haproxy.router.openshift.io/"

/-- The annotations that are timeouts. -/
def timeouts : List String := [domain ++ "timeout", domain ++ "timeout-tunnel"]

/-- The annotations that are allowlists; the first one that a route has counts. -/
def allowlists : List String := [domain ++ "ip_allowlist", domain ++ "ip_whitelist"]

/-- The allowlist of a route, if it has one. -/
def allowlistOf? (r : Route) : Option String := allowlists.findSome? r.annotations.find?

end ProxyMaps.AnnotationName

namespace ProxyMaps.AnnotationValue

/-! ### Truth values and integers -/

/-- The spellings of true in annotations. -/
def trueValues : List String := ["1", "t", "T", "TRUE", "true", "True"]

/-- Whether an annotation is set: it has one of the spellings of true. -/
def isTrue (value : String) : Bool := trueValues.contains value

/-- Whether an integer fits in 64 bits with a sign. -/
def fitsInt64 (n : Int) : Bool := -0x8000000000000000 ≤ n && n ≤ 0x7fffffffffffffff

/-- Whether a text is ASCII digits, at least one, after an optional sign. -/
def isNumeral (s : List Char) : Bool :=
  let digits := (Decimal.Integer.cutSign s).2
  !digits.isEmpty && digits.all Char.isDigit

/-- Whether an annotation is an integer of 64 bits; a numeral may be too long to tell. -/
def isInteger (value : String) : Except Decimal.Integer.Fault Bool :=
  let s := value.toList
  if isNumeral s then (Decimal.Integer.read .decimal s).map fitsInt64 else .ok false

/-! ### Lists of addresses

A list with white space at an end is rejected as a whole; of any other list the
valid entries stay. -/

/-- Whether a text has white space at its start or its end. -/
def hasOuterBlank (value : String) : Bool := Text.trim value.toList ≠ value.toList

/-- The valid entries of an address list with single blanks between them. -/
def parseAddressList (value : String) : String :=
  if hasOuterBlank value then "" else String.intercalate " " (Allowlist.entries value)

/-! ### Timeouts

A timeout beyond what the proxy accepts is clipped to its maximum, and a text that
is no time value is dropped. -/

/-- The longest timeout that the proxy accepts. -/
def maxTimeout : String := "2147483647ms"

/-- The duration of `maxTimeout`. -/
def maxTimeoutDuration : Duration := ⟨2147483647 * 1000⟩

/-- The timeout that stands in for one that cannot be converted. -/
def defaultTimeout : String := "5s"

/-- A timeout as the proxy may use it; the empty text leaves the choice to the proxy. -/
def clipTimeout (value : String) : String :=
  if value.isEmpty then value
  else
    match Duration.read value with
    | .error (.overflow _) => maxTimeout
    | .error (.malformed _) => ""
    | .error (.tooLong _) => defaultTimeout
    | .ok d =>
      if maxTimeoutDuration.microseconds < d.microseconds then maxTimeout else value

/-! ### Rewrite targets

A target stands between single quotes in the configuration of the proxy. Two pairs
are kept as they are: a doubled backslash, and a backslash in front of a hash. Any
other hash starts a comment, which goes; a backslash at the end would escape the
closing quote, so it goes; a percent sign is doubled; and a single quote closes the
quoted text, stands escaped, and opens it again. -/

/-- A character that is in no pair, as it stands between single quotes. -/
def rewriteChar (c : Char) : List Char :=
  if c = '%' then ['%', '%']
  else if c = '\'' then ['\'', '\\', '\'', '\'']
  else [c]

/-- A rewrite target as it stands between single quotes. -/
def rewriteChars : List Char → List Char
  | [] => []
  | '\\' :: '\\' :: rest => '\\' :: '\\' :: rewriteChars rest
  | '\\' :: '#' :: rest => '\\' :: '#' :: rewriteChars rest
  | ['\\'] => []
  | '#' :: _ => []
  | c :: rest => rewriteChar c ++ rewriteChars rest

/-- A rewrite target as it stands between single quotes. -/
def rewriteTarget (value : String) : String := String.ofList (rewriteChars value.toList)

/-! ### Indentation

Blanks in front of every line that is not empty. -/

/-- A line with `n` blanks in front of it; an empty line stays empty. -/
def indentLine (n : Nat) (line : List Char) : List Char :=
  if line.isEmpty then line else List.replicate n ' ' ++ line

/-- The lines of a text with `n` blanks in front of each that is not empty. -/
def indentLines (n : Nat) (text : List Char) : List Char :=
  ['\n'].intercalate ((List.splitOn '\n' text).map (indentLine n))

/-- The most blanks that one text can have. -/
def maxBlanks : Nat := 0x7fffffffffffffff

/-- Why a text is not indented. -/
inductive IndentFault where
  /-- There are more blanks than a text can have. -/
  | tooWide
  deriving DecidableEq, Repr

/-- The wording of a fault. -/
def IndentFault.message : IndentFault → String
  | tooWide => "cannot fit 'int' into an index-sized integer"

/--
A text indented by a number of blanks; a number that is not positive changes
nothing, and any number will do for the empty text.
-/
def indent (text : String) (blanks : Int) : Except IndentFault String :=
  if !text.isEmpty && maxBlanks < blanks then .error .tooWide
  else .ok (String.ofList (indentLines blanks.toNat text.toList))

end ProxyMaps.AnnotationValue
