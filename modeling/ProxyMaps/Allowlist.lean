/-
Allowlists: texts of addresses and blocks with white space between them. What
is no address and no block is dropped; the valid entries of a route's allowlist
go to a file that is named for the route.
-/
import ProxyMaps.Cidr
import ProxyMaps.Host
import ProxyMaps.Settings

namespace ProxyMaps.Allowlist

/-- The words of an allowlist, in order. -/
def words (value : String) : List String := (Text.words value.toList).map String.ofList

/-- The valid entries of an allowlist, in order. -/
def entries (value : String) : List String := (words value).filter Cidr.accepts

/-- Whether every entry of an allowlist is valid. -/
def isValid (value : String) : Bool := (words value).all Cidr.accepts

/-- The text of an allowlist file: one valid entry a line. -/
def fileText (value : String) : String := String.intercalate "\n" (entries value) ++ "\n"

end ProxyMaps.Allowlist

namespace ProxyMaps.AllowlistFile

/-- What keeps a file from being written at all. -/
inductive Fault where
  /-- No path has a NUL in it. -/
  | nulInPath
  deriving DecidableEq, Repr

/-- The wording of a fault. -/
def Fault.message : Fault → String
  | nulInPath => "embedded null byte"

/-- The path of the allowlist file of a route. -/
def path (settings : Settings) (workingDir key : String) : String :=
  Path.join (Path.join workingDir settings.allowlistDir) (key ++ ".txt")

/-- Writes the allowlist file of a route; the answer is its path, or empty if it cannot be
written. -/
def write {m : Type → Type} [Monad m] (host : Host m) (settings : Settings)
    (workingDir key value : String) : m (Except Fault String) := do
  let file := path settings workingDir key
  if file.toList.contains '\x00' then return .error .nulInPath
  else if !(← host.write file (Allowlist.fileText value)) then return .ok ""
  else if !(← host.share file) then return .ok ""
  else return .ok file

end ProxyMaps.AllowlistFile
