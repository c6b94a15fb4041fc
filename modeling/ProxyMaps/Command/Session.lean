/-
What happens while a command runs: it uses a computer, says things on the way,
and may stop with a fault.
-/
import ProxyMaps.Allowlist
import ProxyMaps.Snapshot.OfText

namespace ProxyMaps.Command

/-- How much a message matters. -/
inductive Level where
  | debug
  | info
  | warning
  | error
  deriving DecidableEq, Repr

/-- The name of a level. -/
def Level.name : Level → String
  | debug => "DEBUG"
  | info => "INFO"
  | warning => "WARNING"
  | error => "ERROR"

/-- What a command says besides its output. -/
inductive Notice where
  /-- A message of the log. -/
  | message (level : Level) (text : String)
  /-- A line of its own. -/
  | line (text : String)
  deriving DecidableEq, Repr

/-- Why a command stops. -/
inductive Fault where
  | unreadable (path : String)
  /-- The file is not text in UTF-8. -/
  | notText (path : String)
  | snapshot (f : Snapshot.Fault)
  | noDirectory (path : String)
  | unwritable (path : String)
  | allowlist (f : AllowlistFile.Fault)
  /-- The report has no written form. -/
  | unprintable
  deriving DecidableEq, Repr

/-- The wording of a fault. -/
def Fault.message : Fault → String
  | unreadable path => s!"cannot read {path}"
  | notText path => s!"{path} is not text"
  | snapshot f => f.message
  | noDirectory path => s!"cannot make the directory {path}"
  | unwritable path => s!"cannot write {path}"
  | allowlist f => f.message
  | unprintable => "the report cannot be printed"

/-- A computation of a command on a computer of `m`. -/
abbrev Session (m : Type → Type) := ExceptT Fault (StateT (List Notice) m)

namespace Session

variable {m : Type → Type} [Monad m] {α : Type}

/-- Says something. -/
def say (n : Notice) : Session m Unit := modify fun ns => ns ++ [n]

/-- Says a message of the log. -/
def log (level : Level) (text : String) : Session m Unit := say (.message level text)

/-- Goes on only if something was possible. -/
def orStop (f : Fault) (done : Bool) : Session m Unit := if done then pure () else throw f

/-- The snapshot in a file, with all line breaks as line feeds. -/
def loadSnapshot (host : Host m) (settings : Settings) (override : Snapshot.Override)
    (path : String) : Session m Snapshot := do
  match ← host.read path with
  | none => throw (.unreadable path)
  | some bytes =>
    match String.fromUTF8? bytes with
    | none => throw (.notText path)
    | some text =>
      match Snapshot.ofText settings override (String.ofList (Text.Line.normalize text.toList)) with
      | .ok s => return s
      | .error f => throw (.snapshot f)

/-- Runs a pass of a phase, and gives its answer with the timer of the phase after it. -/
def timed (host : Host m) (t : Timer) (work : Session m α) : Session m (α × Timer) := do
  let start ← host.now
  let a ← work
  let now ← host.now
  return (a, (t.enter start).leave start now)

end Session

end ProxyMaps.Command
