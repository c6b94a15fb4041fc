/-
Values as text: `expression?` shows what a value is, with quotes around texts
and brackets around lists; `display?` shows a text or a date as it is and
everything else as its expression. A container that is met again inside of
itself is shown as dots.

There is no text for an integer with more digits than a numeral may have.
-/
import ProxyMaps.Decimal.Integer
import ProxyMaps.Decimal.Shortest
import ProxyMaps.Text.Quoted
import ProxyMaps.Value

namespace ProxyMaps.Value

/-- What stands for a container inside of itself. -/
def dots : Value → String
  | mapping _ => "\x7b...\x7d"
  | _ => "[...]"

mutual

/-- A value as an expression, inside of marked containers that are shown by dots. -/
def expressionIn? (around : List (Nat × String)) : Value → Option String
  | null => some "None"
  | bool b => some (if b then "True" else "False")
  | int n => Decimal.Integer.render? n
  | float x => some (String.ofList (Decimal.Shortest.render Decimal.Shortest.plain x))
  | text s => some (Text.quoted s)
  | bytes bs => some (String.ofList (Text.Quoted.quoteBytes bs))
  | date d => some d.expression
  | moment m => some m.expression
  | list items => do return "[" ++ ", ".intercalate (← expressionsIn? around items) ++ "]"
  | pair a b => do return "(" ++ (← expressionIn? around a) ++ ", " ++ (← expressionIn? around b) ++ ")"
  | set [] => some "set()"
  | set members => do
    return "\x7b" ++ ", ".intercalate (← expressionsIn? around members) ++ "\x7d"
  | mapping entries => do
    return "\x7b" ++ ", ".intercalate (← entryExpressionsIn? around entries) ++ "\x7d"
  | marked m v =>
    match around.find? fun e => e.1 = m with
    | some e => some e.2
    | none => expressionIn? ((m, dots v) :: around) v
  | again m => ((around.find? fun e => e.1 = m).map Prod.snd).or (some "[...]")

/-- Every item as an expression. -/
def expressionsIn? (around : List (Nat × String)) : List Value → Option (List String)
  | [] => some []
  | v :: rest => do return (← expressionIn? around v) :: (← expressionsIn? around rest)

/-- Every entry as the expressions of its key and its value. -/
def entryExpressionsIn? (around : List (Nat × String)) :
    List (Value × Value) → Option (List String)
  | [] => some []
  | (k, v) :: rest => do
    let one := (← expressionIn? around k) ++ ": " ++ (← expressionIn? around v)
    return one :: (← entryExpressionsIn? around rest)

end

/-- A value as an expression. -/
def expression? (v : Value) : Option String := expressionIn? [] v

/-- A value as text. -/
def display? : Value → Option String
  | text s => some s
  | date d => some d.render
  | moment m => some m.render
  | v => expression? v

end ProxyMaps.Value
