/-
Dates and moments of the Gregorian calendar, as documents hold them, with the
two ways in which they are written: plainly, and as an expression that names
every part.
-/

namespace ProxyMaps

/-- A day of the calendar. -/
structure Date where
  year : Nat
  month : Nat
  day : Nat
  deriving DecidableEq, Repr

/-- A number in decimal digits, filled up with zeros on the left. -/
def padded (width n : Nat) : String :=
  let digits := toString n
  String.ofList (List.replicate (width - digits.length) '0') ++ digits

namespace Date

/-- Whether a year has a 29th of February. -/
def isLeap (year : Nat) : Bool := year % 4 = 0 && (year % 100 ≠ 0 || year % 400 = 0)

/-- The number of days of a month. -/
def daysOf (year month : Nat) : Nat :=
  if month = 2 then if isLeap year then 29 else 28
  else if [4, 6, 9, 11].contains month then 30
  else 31

/-- The date of three numbers, if there is such a day in the years from 1 to 9999. -/
def of? (year month day : Nat) : Option Date :=
  if 1 ≤ year && year ≤ 9999 && 1 ≤ month && month ≤ 12 && 1 ≤ day && day ≤ daysOf year month then
    some ⟨year, month, day⟩
  else none

/-- The number of days from the first day of the year 1 to a date. -/
def toDays (d : Date) : Nat :=
  let past := d.year - 1
  let months := (List.range (d.month - 1)).foldl (fun n i => n + daysOf d.year (i + 1)) 0
  past * 365 + past / 4 - past / 100 + past / 400 + months + (d.day - 1)

/-- A date as it is written. -/
def render (d : Date) : String :=
  padded 4 d.year ++ "-" ++ padded 2 d.month ++ "-" ++ padded 2 d.day

/-- A date as an expression. -/
def expression (d : Date) : String := s!"datetime.date({d.year}, {d.month}, {d.day})"

end Date

/-- A moment: a time of a day, with the distance of its time zone from universal time if that is
known. -/
structure Moment where
  date : Date
  hour : Nat
  minute : Nat
  second : Nat
  microsecond : Nat
  /-- The minutes that the clocks of the time zone are ahead. -/
  ahead : Option Int
  deriving DecidableEq, Repr

namespace Moment

/-- The number of minutes of a day. -/
def dayMinutes : Nat := 24 * 60

/-- The moment of some numbers, if there is one. -/
def of? (date : Date) (hour minute second microsecond : Nat) (ahead : Option Int) :
    Option Moment :=
  let inDay := (ahead.getD 0).natAbs < dayMinutes
  if hour < 24 && minute < 60 && second < 60 && microsecond < 1000000 && inDay then
    some ⟨date, hour, minute, second, microsecond, ahead⟩
  else none

/-- The microseconds from the first moment of the year 1 to a moment, by universal time if that
is known. -/
def toMicroseconds (m : Moment) : Int :=
  let minutes : Int := (m.date.toDays * 24 + m.hour) * 60 + m.minute - m.ahead.getD 0
  (minutes * 60 + m.second) * 1000000 + m.microsecond

/-- Whether two moments are the same; one with a time zone never is one without. -/
def same (m n : Moment) : Bool :=
  m.ahead.isSome == n.ahead.isSome && m.toMicroseconds == n.toMicroseconds

/-- The distance from universal time as it is written. -/
def renderAhead (minutes : Int) : String :=
  let n := minutes.natAbs
  (if minutes < 0 then "-" else "+") ++ padded 2 (n / 60) ++ ":" ++ padded 2 (n % 60)

/-- A moment as it is written. -/
def render (m : Moment) : String :=
  m.date.render ++ " " ++ padded 2 m.hour ++ ":" ++ padded 2 m.minute ++ ":" ++ padded 2 m.second ++
    (if m.microsecond = 0 then "" else "." ++ padded 6 m.microsecond) ++
    (m.ahead.map renderAhead).getD ""

/-- The distance from universal time as an expression: whole days, which may be negative, and
seconds. -/
def aheadExpression (minutes : Int) : String :=
  if minutes = 0 then "datetime.timezone.utc"
  else
    let seconds := (minutes * 60) % 86400
    let days := if minutes < 0 then "days=-1, " else ""
    s!"datetime.timezone(datetime.timedelta({days}seconds={seconds}))"

/-- A moment as an expression; trailing zeros of the time are left out, the minute apart. -/
def expression (m : Moment) : String :=
  let fine :=
    if m.microsecond ≠ 0 then s!", {m.second}, {m.microsecond}"
    else if m.second ≠ 0 then s!", {m.second}"
    else ""
  let zone := (m.ahead.map fun a => ", tzinfo=" ++ aheadExpression a).getD ""
  s!"datetime.datetime({m.date.year}, {m.date.month}, {m.date.day}, {m.hour}, {m.minute}{fine}{zone})"

end Moment

end ProxyMaps
