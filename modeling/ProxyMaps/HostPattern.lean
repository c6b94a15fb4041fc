/-
Patterns for the hosts and paths of routes. They are the keys of map files,
so their text is fixed to the letter: a backslash goes in front of exactly the
characters that have a meaning in patterns.
-/
import ProxyMaps.Route
import ProxyMaps.Text.Split

namespace ProxyMaps.HostPattern

/-- The characters that have a meaning of their own in patterns. -/
def special : List Char :=
  ['\\', '.', '+', '*', '?', '(', ')', '|', '[', ']', '\x7b', '\x7d', '^', '$']

/-- A character as a pattern for itself. -/
def quoteChar (c : Char) : List Char := if special.contains c then ['\\', c] else [c]

/-- A text as a pattern for itself. -/
def quoteMeta (s : String) : String := String.ofList (s.toList.flatMap quoteChar)

/-- What follows the first dot of a host; a host without a dot has no parent domain. -/
def parentDomain (host : String) : String :=
  match Text.cutFirst? '.' host.toList with
  | some (_, domain) => String.ofList domain
  | none => ""

/-- The pattern of one host label, whatever it holds. -/
def anyLabel : String := "[^\\.]*"

/-- The start of every pattern for the hosts of a wildcard route. -/
def wildcardStart : String := "^" ++ anyLabel ++ "\\."

/--
The pattern for all hosts of the domain of `host`, followed by a path and,
unless the path is exact, by anything below it. A host without a domain
stands for itself, unquoted.
-/
def subdomain (host path : String) (exactPath : Bool) : String :=
  let domain := parentDomain host
  if domain.isEmpty then host ++ path
  else
    let body := "^" ++ anyLabel ++ quoteMeta ("." ++ domain ++ path)
    if exactPath then body ++ "$" else body ++ "(|/.*)$"

/-- The part of a route pattern that matches hosts. -/
def hostPart (host : String) (wildcard : Bool) : String :=
  let domain := parentDomain host
  if wildcard && !domain.isEmpty then anyLabel ++ quoteMeta ("." ++ domain) else quoteMeta host

/-- Whether a path has nothing but slashes, so that it stands for every path. -/
def isRoot (path : String) : Bool := path.toList.all (· = '/')

/-- Whether a path ends with a slash. -/
def endsWithSlash (path : String) : Bool := path.toList.getLast? = some '/'

/-- The part of a route pattern that matches paths: the path, then anything below it. -/
def pathPart (path : String) : String :=
  if isRoot path then "(/.*)?"
  else if endsWithSlash path then quoteMeta path ++ "(.*)?"
  else quoteMeta path ++ "(/.*)?"

/-- The pattern for the requests of a route: its host with any port, then its path. -/
def route (host path : String) (wildcard : Bool) : String :=
  "^" ++ hostPart host wildcard ++ "(:[0-9]+)?" ++ pathPart path ++ "$"

/-- The host name that selects a certificate: `*.` and the domain for wildcard routes. -/
def certificateHost (host : String) (wildcard : Bool) : String :=
  if wildcard then
    match Text.cutFirst? '.' host.toList with
    | some (_ :: _, domain) => "*." ++ String.ofList domain
    | _ => host
  else host

/-- The start of the names of the backends of a termination. -/
def backendKind : Termination → String
  | .edge => "be_edge_http"
  | .reencrypt => "be_secure"
  | .passthrough => "be_tcp"
  | .plain => "be_http"

end ProxyMaps.HostPattern
