/-
What a program asks of the computer it runs on: files, directories and the
time. The operations are a record, so a program can run on a real computer or
on a tree of files alike.
-/
import ProxyMaps.FileTree
import ProxyMaps.Timer

namespace ProxyMaps

/-- The operations of a computer. -/
structure Host (m : Type → Type) where
  /-- The bytes of a file, if it can be read. -/
  read : String → m (Option ByteArray)
  /-- Gives a file a new text; tells whether that was possible. -/
  write : String → String → m Bool
  /-- Lets everybody read a file; tells whether that was possible. -/
  share : String → m Bool
  /-- Makes a directory and those above it; tells whether there is one now. -/
  makeDirectories : String → m Bool
  /-- The time. -/
  now : m Reading

namespace Host

/-- The mode of files that everybody may read. -/
def sharedMode : Nat := 0o644

/-- An operation that may fail and then changes nothing. -/
def attempt (f : FileTree → Option FileTree) : StateM FileTree Bool := fun t =>
  match f t with
  | some t => (true, t)
  | none => (false, t)

/-- A computer that is a tree of files, on which no time passes. -/
def ofFileTree : Host (StateM FileTree) where
  read path := fun t => (t.read? path, t)
  write path text := attempt fun t => t.write? path text.toUTF8
  share path := attempt fun t => t.setMode? path sharedMode
  makeDirectories path := fun t =>
    let (t, made) := t.makeDirectories path
    (made, t)
  now := pure (.whole 0)

end Host

end ProxyMaps
