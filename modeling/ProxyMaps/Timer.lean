/-
Timers: how long each pass through a phase took, with a summary, and a gauge
that shows the latest pass. The clock is read once when a pass begins and once
when it ends; an end without a beginning reads no clock and counts for
nothing.
-/
import ProxyMaps.Decimal.Binary64
import ProxyMaps.Decimal.Shortest
import ProxyMaps.Text.Split
import ProxyMaps.Text.Lower

namespace ProxyMaps

open Decimal (Binary64)

/-- What a clock shows, in seconds. -/
inductive Reading where
  | whole (n : Int)
  | real (x : Binary64)
  deriving DecidableEq, Repr

namespace Reading

/-- The reading as a floating point number. -/
def toBinary64 : Reading → Binary64
  | whole n => .ofInt n
  | real x => x

/-- The sum of two readings, exact for whole ones. -/
def add : Reading → Reading → Reading
  | whole m, whole n => whole (m + n)
  | x, y => real (x.toBinary64.add y.toBinary64)

/-- The difference of two readings, exact for whole ones. -/
def sub : Reading → Reading → Reading
  | whole m, whole n => whole (m - n)
  | x, y => real (x.toBinary64.sub y.toBinary64)

/-- The quotient of a reading and a positive number. -/
def div (x : Reading) (n : Nat) : Binary64 :=
  match x with
  | whole m => .ofQuotient m n
  | real x => x.div (.ofInt n)

/-- Whether one reading is less than another. -/
def lt : Reading → Reading → Bool
  | whole m, whole n => m < n
  | x, y => x.toBinary64.lt y.toBinary64

/-- The reading with `places` digits after the point. -/
def render (places : Nat) (x : Reading) : String := Decimal.Fixed.render places x.toBinary64

end Reading

/-- A timer of one phase. -/
structure Timer where
  name : String
  /-- When the current pass began. -/
  started : Option Reading := none
  /-- How long the passes took that have ended, the first one first. -/
  durations : List Reading := []
  /-- What the gauge shows, if the timer has one; a gauge keeps floating point numbers only. -/
  gauge : Option Binary64 := none
  deriving DecidableEq, Repr

namespace Timer

/-- A timer without a gauge, or with one that shows zero. -/
def new (name : String) (withGauge : Bool) : Timer :=
  { name := name, gauge := if withGauge then some .zero else none }

/-- What can be done to a timer. -/
inductive Step where
  | enter
  /-- The timed work is over, whether it succeeded or failed. -/
  | leave
  deriving DecidableEq, Repr

/-- The timer after a pass has begun. -/
def enter (t : Timer) (now : Reading) : Timer := { t with started := some now }

/-- The timer after the pass that began at `start` has ended. -/
def leave (t : Timer) (start now : Reading) : Timer :=
  let elapsed := now.sub start
  { t with
    started := none
    durations := t.durations ++ [elapsed]
    gauge := t.gauge.map fun _ => elapsed.toBinary64 }

/--
One step of a timer whose clock will show the given readings. Where the clock
is needed and shows nothing any more, there is no next state.
-/
def step? (s : Timer × List Reading) (step : Step) : Option (Timer × List Reading) :=
  match step, s.1.started, s.2 with
  | .leave, none, _ => some s
  | .enter, _, now :: clock => some (s.1.enter now, clock)
  | .leave, some start, now :: clock => some (s.1.leave start now, clock)
  | _, _, [] => none

/-- The state after some steps; a step that fails changes nothing. -/
def run (s : Timer × List Reading) (steps : List Step) : Timer × List Reading :=
  steps.foldl (fun s step => (step? s step).getD s) s

/-- The least of some readings, the first one of equal ones. -/
def least (x : Reading) (xs : List Reading) : Reading :=
  xs.foldl (fun m y => if y.lt m then y else m) x

/-- The greatest of some readings, the first one of equal ones. -/
def greatest (x : Reading) (xs : List Reading) : Reading :=
  xs.foldl (fun m y => if m.lt y then y else m) x

/-- How often the timer has run, and how long the runs took. -/
def summary (t : Timer) : String :=
  match t.durations with
  | [] => t.name ++ ": never run"
  | x :: xs =>
    let n := xs.length + 1
    let total := (x :: xs).foldl Reading.add (.whole 0)
    let average := Decimal.Fixed.render 3 (total.div n)
    let plural := if n = 1 then "" else "s"
    s!"{t.name}: {n} run{plural}, {(least x xs).render 3}/{average}/{(greatest x xs).render 3}" ++
      " sec min/avg/max"

/-- A text with each run of white space turned into an underscore. -/
def underscores : Bool → List Char → List Char
  | _, [] => []
  | inBlank, c :: rest =>
    if Text.isBlank c then
      if inBlank then underscores true rest else '_' :: underscores true rest
    else c :: underscores false rest

/-- The name of the gauge of a timer. -/
def gaugeName (t : Timer) : String :=
  "routegen_" ++ String.ofList (Text.lower (underscores false t.name.toList)) ++ "_time_seconds"

/-- What the gauge of a timer shows, in words. -/
def gaugeHelp (t : Timer) : String := s!"Seconds taken by the most recent {t.name} run"

end Timer

end ProxyMaps
