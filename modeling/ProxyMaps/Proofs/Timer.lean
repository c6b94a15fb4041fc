/-
What a timer has counted after any steps. Every step comes to an event, and the
log of the events says, without the timer, which reading of the clock each step
took, when the open pass began and how long the others lasted. A timer agrees
with the log (`Agrees`): each step keeps that up (`Agrees.step`), and so does a
whole run (`run_counts_passes`).
-/
import Mathlib.Data.List.Basic
import Mathlib.Data.List.Induction
import ProxyMaps.Timer

namespace ProxyMaps.Timer

/-! ## Events -/

/-- What a step came to. -/
inductive Event where
  /-- A pass began. -/
  | began (now : Reading)
  /-- The open pass ended. -/
  | ended (now : Reading)
  /-- A pass was to end, but none was open. -/
  | idle
  /-- The clock was asked and showed nothing any more. -/
  | failed
  deriving DecidableEq, Repr

/-- Whether an event took a reading of the clock. -/
def Event.reads : Event → Bool
  | began _ | ended _ => true
  | idle | failed => false

/-- Whether an event ended a pass. -/
def Event.ends : Event → Bool
  | ended _ => true
  | _ => false

/-- The events of a run, the latest one first. -/
abbrev Log := List Event

namespace Log

/-- When the latest pass began, unless it has ended. -/
def openSince : Log → Option Reading
  | [] => none
  | .began now :: _ => some now
  | .ended _ :: _ => none
  | .idle :: log | .failed :: log => openSince log

/-- How long the passes lasted that have ended, the first one first. -/
def durations : Log → List Reading
  | [] => []
  | .ended now :: log => durations log ++ (openSince log).toList.map now.sub
  | .began _ :: log | .idle :: log | .failed :: log => durations log

/-- The number of readings that were taken. -/
def readings (log : Log) : Nat := log.countP Event.reads

/-- What a step comes to behind a log, if the clock shows the given readings from the start. -/
def next (clock : List Reading) (log : Log) : Step → Event
  | .enter => (clock[log.readings]?).elim .failed .began
  | .leave => if log.openSince = none then .idle else (clock[log.readings]?).elim .failed .ended

/-- The log of some steps. -/
def ofSteps (clock : List Reading) (steps : List Step) : Log :=
  steps.foldl (fun log step => log.next clock step :: log) []

end Log

/-! ## Timers -/

/-- All that a step can do: begin a pass, end the open one, do nothing, or fail. -/
theorem step?_cases (s : Timer × List Reading) (step : Step) :
    (∃ now rest, step = .enter ∧ s.2 = now :: rest ∧ step? s step = some (s.1.enter now, rest)) ∨
    (∃ start now rest, step = .leave ∧ s.1.started = some start ∧ s.2 = now :: rest ∧
      step? s step = some (s.1.leave start now, rest)) ∨
    (step = .leave ∧ s.1.started = none ∧ step? s step = some s) ∨
    ((step = .enter ∨ s.1.started ≠ none) ∧ s.2 = [] ∧ step? s step = none) := by
  obtain ⟨t, clock⟩ := s
  cases step with
  | enter =>
    cases clock with
    | nil => exact .inr (.inr (.inr ⟨.inl rfl, rfl, rfl⟩))
    | cons now rest => exact .inl ⟨now, rest, rfl, rfl, rfl⟩
  | leave =>
    simp only [step?]
    cases hstarted : t.started with
    | none => simp
    | some start => cases clock <;> simp

/-- A timer and the rest of its clock are as a log says. -/
structure Agrees (withGauge : Bool) (clock : List Reading) (log : Log)
    (s : Timer × List Reading) : Prop where
  durations : s.1.durations = log.durations
  /-- Each pass that ended has one duration. -/
  length : s.1.durations.length = log.countP Event.ends
  started : s.1.started = log.openSince
  /-- The gauge shows the last duration, and zero before there is one. -/
  gauge : s.1.gauge =
    if withGauge then some (s.1.durations.getLast?.elim .zero Reading.toBinary64) else none
  rest : s.2 = clock.drop log.readings

section

variable {withGauge : Bool} {clock : List Reading} {log : Log} {s : Timer × List Reading}
  {start now : Reading} {rest : List Reading}

theorem agrees_new (name : String) : Agrees withGauge clock [] (new name withGauge, clock) := by
  constructor <;> cases withGauge <;> rfl

namespace Agrees

theorem getElem?_readings (h : Agrees withGauge clock log s) :
    clock[log.readings]? = s.2.head? := by
  rw [h.rest, List.head?_drop]

/-- What is left of the clock behind one more reading. -/
theorem rest_of_reads (h : Agrees withGauge clock log s) (hs : s.2 = now :: rest) {e : Event}
    (he : e.reads = true) : rest = clock.drop (Log.readings (e :: log)) := by
  have hrest := h.rest
  rw [hs] at hrest
  rw [Log.readings, List.countP_cons_of_pos he, ← List.drop_drop, ← Log.readings, ← hrest]
  rfl

theorem began (h : Agrees withGauge clock log s) (hs : s.2 = now :: rest) :
    Agrees withGauge clock (.began now :: log) (s.1.enter now, rest) where
  durations := h.durations
  length := h.length
  started := rfl
  gauge := h.gauge
  rest := h.rest_of_reads hs rfl

theorem ended (h : Agrees withGauge clock log s) (hstart : s.1.started = some start)
    (hs : s.2 = now :: rest) :
    Agrees withGauge clock (.ended now :: log) (s.1.leave start now, rest) where
  durations := by
    simp only [leave, Log.durations, h.durations, ← h.started, hstart]
    rfl
  length := by
    rw [List.countP_cons_of_pos rfl, ← h.length]
    simp [leave]
  started := rfl
  gauge := by
    simp only [leave, h.gauge]
    cases withGauge <;> simp
  rest := h.rest_of_reads hs rfl

theorem idle (h : Agrees withGauge clock log s) : Agrees withGauge clock (.idle :: log) s :=
  ⟨h.durations, h.length, h.started, h.gauge, h.rest⟩

theorem failed (h : Agrees withGauge clock log s) : Agrees withGauge clock (.failed :: log) s :=
  ⟨h.durations, h.length, h.started, h.gauge, h.rest⟩

/-- What a step does to a timer is the next event of the log. -/
theorem step (h : Agrees withGauge clock log s) (step : Step) :
    Agrees withGauge clock (log.next clock step :: log) ((step? s step).getD s) ∧
      (step? s step = none ↔ log.next clock step = .failed) := by
  have hnext := h.getElem?_readings
  rcases step?_cases s step with ⟨now, rest, rfl, hs, hstep⟩ |
    ⟨start, now, rest, rfl, hstart, hs, hstep⟩ | ⟨rfl, hstart, hstep⟩ | ⟨hneeds, hs, hstep⟩
  · have hevent : log.next clock .enter = .began now := by simp [Log.next, hnext, hs]
    rw [hstep, hevent]
    exact ⟨h.began hs, by simp⟩
  · have hevent : log.next clock .leave = .ended now := by
      simp [Log.next, ← h.started, hstart, hnext, hs]
    rw [hstep, hevent]
    exact ⟨h.ended hstart hs, by simp⟩
  · have hevent : log.next clock .leave = .idle := by simp [Log.next, ← h.started, hstart]
    rw [hstep, hevent]
    exact ⟨h.idle, by simp⟩
  · have hevent : log.next clock step = .failed := by
      rcases hneeds with rfl | hopen
      · simp [Log.next, hnext, hs]
      · cases step <;> simp [Log.next, ← h.started, hopen, hnext, hs]
    rw [hstep, hevent]
    exact ⟨h.failed, by simp⟩

end Agrees

end

theorem agrees_run (name : String) (withGauge : Bool) (clock : List Reading) (steps : List Step) :
    Agrees withGauge clock (Log.ofSteps clock steps) (run (new name withGauge, clock) steps) := by
  induction steps using List.reverseRecOn with
  | nil => exact agrees_new name
  | append_singleton steps step ih =>
    rw [run, Log.ofSteps, List.foldl_concat, List.foldl_concat]
    exact (ih.step step).1

/-- **What a timer has counted.** After any steps the durations are those of the
passes that ended, each from the latest beginning to the end; the pass that is
open began at the latest beginning; the gauge shows the last duration as a
floating point number; and the clock was read once for each beginning and each
end. To end a pass when none is open changes nothing and reads nothing, and
neither does a step for which the clock shows nothing any more. -/
theorem run_counts_passes (name : String) (withGauge : Bool) (clock : List Reading)
    (steps : List Step) :
    let s := run (new name withGauge, clock) steps
    let log := Log.ofSteps clock steps
    Agrees withGauge clock log s ∧
      (log.openSince = none → step? s .leave = some s) ∧
      ∀ step, (step? s step = none ↔ log.next clock step = .failed) ∧
        (log.next clock step = .failed → run (new name withGauge, clock) (steps ++ [step]) = s) := by
  intro s log
  have h : Agrees withGauge clock log s := agrees_run name withGauge clock steps
  refine ⟨h, ?_, fun step => ⟨(h.step step).2, fun hfailed => ?_⟩⟩
  · intro hopen
    simp only [step?, h.started, hopen]
  · have hnone := (h.step step).2.2 hfailed
    rw [run, List.foldl_concat]
    show (step? s step).getD s = s
    rw [hnone]
    rfl

example :
    let steps : List Step := [.leave, .enter, .enter, .leave, .leave, .enter, .enter]
    let clock : List Reading := [.whole 1, .whole 5, .whole 7, .whole 9]
    Log.ofSteps clock steps = [.failed, .began (.whole 9), .idle, .ended (.whole 7),
      .began (.whole 5), .began (.whole 1), .idle] ∧
    (Log.ofSteps clock steps).durations = [.whole 2] := by
  decide

end ProxyMaps.Timer
