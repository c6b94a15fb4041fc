/-
The program on a real computer.
-/
import ProxyMaps.Command

namespace ProxyMaps.Terminal

open Command

/-- Whether an action ends without an error. -/
def succeeds (action : IO Unit) : IO Bool := do
  try
    action
    return true
  catch _ => return false

/-- The rights of files that everybody may read. -/
def sharedRights : IO.FileRight :=
  ⟨⟨true, true, false⟩, ⟨true, false, false⟩, ⟨true, false, false⟩⟩

/-- The time in seconds. -/
def clock : IO Reading := do
  return .real (.ofQuotient (← IO.monoNanosNow) 1000000000)

/-- The computer that the program runs on. -/
def realHost : Host IO where
  read path := do
    try
      return some (← IO.FS.readBinFile path)
    catch _ => return none
  write path text := succeeds (IO.FS.writeFile path text)
  share path := succeeds (IO.setAccessRights path sharedRights)
  makeDirectories path := succeeds (IO.FS.createDirAll path)
  now := clock

/-- The variables of the environment that the program knows. -/
def environment : IO Environment := do
  let mut env : Environment := .empty
  for name in Settings.variableNames do
    if let some value ← IO.getEnv name then env := env.insert name value
  return env

/-- A notice as it is shown. -/
def showNotice : Notice → String
  | .message level text => s!"{programName} {Release.current.version} {level.name}: {text}"
  | .line text => text

/-- Runs the program and shows what it says; the answer is its exit code. -/
def run (args : List String) : IO UInt32 := do
  let outcome ← Command.run realHost (.ofEnvironment (← environment)) args
  IO.print outcome.output
  for notice in outcome.notices do
    IO.eprintln (showNotice notice)
  return outcome.exit.toUInt32

end ProxyMaps.Terminal

def main (args : List String) : IO UInt32 := ProxyMaps.Terminal.run args
