/-
Why a text gives no YAML documents. Most texts that fail are simply malformed;
the other faults are those of values whose tag promises a type that their text
does not have, or that have no text.
-/

namespace ProxyMaps.Yaml

/-- Why a text gives no documents. -/
inductive Fault where
  /-- The text breaks a rule of the language. -/
  | malformed
  /-- A text that is tagged as a truth value is none; the text is in small letters. -/
  | unknownFlag (text : String)
  /-- A text that is tagged as an integer or a float has no digits. -/
  | noDigits
  /-- A text that is tagged as a moment is none. -/
  | notMoment
  /-- A float in places of sixty is larger than floats can be. -/
  | floatTooLarge
  /-- A mapping is tagged as a moment, and has a text at the key of values. -/
  | notText
  /-- A mapping that is tagged as a scalar has itself at the key of values. -/
  | endless
  deriving DecidableEq, Repr

/-- The wording of a fault. -/
def Fault.message : Fault → String
  | malformed => "malformed document"
  | unknownFlag text => text
  | noDigits => "string index out of range"
  | notMoment => "'NoneType' object has no attribute 'groupdict'"
  | floatTooLarge => "int too large to convert to float"
  | notText => "expected string or bytes-like object, got 'list'"
  | endless => "maximum recursion depth exceeded"

end ProxyMaps.Yaml
