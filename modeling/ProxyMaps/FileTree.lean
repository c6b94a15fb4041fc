/-
Paths, and a tree of files and directories with what programs do to it by path:
reading and writing files and making directories.

A path is taken part by part. A dot stays, two dots go up, and everything else
has to be the name of a directory, the last part apart. The tree has a
directory where relative paths start.
-/
import ProxyMaps.Table

namespace ProxyMaps.Path

/-- Whether a path starts at the root of the file system. -/
def isAbsolute (path : String) : Bool := path.toList.head? = some '/'

/-- Whether a path ends with a slash. -/
def endsWithSlash (path : String) : Bool := path.toList.getLast? = some '/'

/-- Two paths one after the other; an absolute second path stands alone. -/
def join (first second : String) : String :=
  if isAbsolute second then second
  else if first.isEmpty || endsWithSlash first then first ++ second
  else first ++ "/" ++ second

end ProxyMaps.Path

namespace ProxyMaps

/-- What stands at a place of a tree. -/
inductive FileEntry where
  | directory
  | file (bytes : ByteArray) (mode : Nat)

/-- A tree of files; a place is the list of names that leads to it from the root. -/
structure FileTree where
  entries : Table (List String) FileEntry := .empty
  /-- Where relative paths start. -/
  base : List String := ["work"]

namespace FileTree

/-- Names have at most this many bytes. -/
def maxName : Nat := 255

/-- Paths have at most this many bytes. -/
def maxPath : Nat := 4095

/-- Files that are new can be read and written by their owner alone. -/
def newMode : Nat := 0o600

/-- The parts of a path between slashes, without the empty ones. -/
def parts (path : String) : List String :=
  ((List.splitOn '/' path.toList).filter fun p => !p.isEmpty).map String.ofList

/-- Where a path starts. -/
def origin (t : FileTree) (path : String) : List String :=
  if path.toList.head? = some '/' then [] else t.base

/-- Whether there is a directory at a place; the root and the start of relative paths always are. -/
def isDirectory (t : FileTree) (place : List String) : Bool :=
  place.isEmpty || place == t.base ||
    match t.entries.find? place with
    | some .directory => true
    | _ => false

/-- The place that one part of a path leads to. -/
def enter (place : List String) (part : String) : List String :=
  if part = "." then place else if part = ".." then place.dropLast else place ++ [part]

/-- The place that parts lead to, every one to a directory. -/
def walk? (t : FileTree) : List String → List String → Option (List String)
  | place, [] => some place
  | place, part :: rest =>
    let next := enter place part
    if t.isDirectory next then t.walk? next rest else none

/-- Whether a path can be given to the file system at all. -/
def isPath (path : String) : Bool :=
  !path.isEmpty && !path.toList.contains '\x00' && path.utf8ByteSize ≤ maxPath &&
    (parts path).all fun p => p.utf8ByteSize ≤ maxName

/-- The place of a file that a path names; its directory has to exist. -/
def filePlace? (t : FileTree) (path : String) : Option (List String) :=
  let ps := parts path
  match ps.getLast? with
  | none => none
  | some name =>
    if !isPath path || path.toList.getLast? = some '/' || name = "." || name = ".." then none
    else (t.walk? (t.origin path) ps.dropLast).map fun place => place ++ [name]

/-- The bytes of a file. -/
def read? (t : FileTree) (path : String) : Option ByteArray := do
  let place ← t.filePlace? path
  match t.entries.find? place with
  | some (.file bytes _) => some bytes
  | _ => none

/-- The mode of a file. -/
def mode? (t : FileTree) (path : String) : Option Nat := do
  let place ← t.filePlace? path
  match t.entries.find? place with
  | some (.file _ mode) => some mode
  | _ => none

/-- Gives a file new bytes; a file that was there keeps its mode. -/
def write? (t : FileTree) (path : String) (bytes : ByteArray) : Option FileTree := do
  let place ← t.filePlace? path
  if t.isDirectory place then none
  else
    let mode := (t.mode? path).getD newMode
    some { t with entries := t.entries.insert place (.file bytes mode) }

/-- Gives a file a new mode. -/
def setMode? (t : FileTree) (path : String) (mode : Nat) : Option FileTree := do
  let place ← t.filePlace? path
  match t.entries.find? place with
  | some (.file bytes _) => some { t with entries := t.entries.insert place (.file bytes mode) }
  | _ => none

/-- Makes the directories that parts lead to, as far as that is possible. -/
def makeParts (t : FileTree) : List String → List String → FileTree × Bool
  | _, [] => (t, true)
  | place, part :: rest =>
    let next := enter place part
    if t.isDirectory next then t.makeParts next rest
    else if (t.entries.find? next).isSome then (t, false)
    else { t with entries := t.entries.insert next .directory }.makeParts next rest

/-- Makes a directory and those above it; tells whether there is one now. -/
def makeDirectories (t : FileTree) (path : String) : FileTree × Bool :=
  if isPath path then t.makeParts (t.origin path) (parts path) else (t, false)

/-- The files below the start of relative paths, each with its path from there. -/
def files (t : FileTree) : List (String × ByteArray) :=
  t.entries.entries.filterMap fun e =>
    match e.2 with
    | .file bytes _ =>
      if t.base.isPrefixOf e.1 then
        some (String.intercalate "/" (e.1.drop t.base.length), bytes)
      else none
    | .directory => none

end FileTree

end ProxyMaps
