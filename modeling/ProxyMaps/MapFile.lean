/-
The lines of the proxy's map files. The proxy takes the first line that
matches, so the lines are in descending order, which puts a longer path in
front of its own beginnings, and the lines of wildcard hosts come last.
-/
import ProxyMaps.MapEntry
import ProxyMaps.FileTree
import ProxyMaps.Settings
import ProxyMaps.Snapshot

namespace ProxyMaps

namespace MapFile

/-- Lines in descending order. -/
def descending (lines : List String) : List String := lines.mergeSort fun a b => b ≤ a

/-- Whether a line begins with another text. -/
def startsWith (start line : String) : Bool := start.toList.isPrefixOf line.toList

/-- Lines in descending order, those that begin with `start` after all others. -/
def sortLines (lines : List String) (start : String) : List String :=
  let sorted := descending lines
  (sorted.filter fun l => !startsWith start l) ++ sorted.filter (startsWith start)

/-- The hint that offers HTTP/2 to clients of a certificate. -/
def http2Hint : String := "[alpn h2,http/1.1]"

/-- The line of an entry. -/
def line (e : MapEntry) : String := e.key ++ " " ++ e.value

/-- The entries of the routes of a snapshot in the map with a file name, in their order. -/
def entries (fileName : String) (s : Snapshot) : List MapEntry :=
  s.routes.entries.filterMap fun r => (Backend.ofRoute r.1 r.2 false).entryNamed? fileName

/-- The contents of the certificate that a route serves; without one they are empty. -/
def servedContents (r : Route) : String := (r.servedCertificate?.map Certificate.contents).getD ""

/-- Whether HTTP/2 is offered for the certificate of a route: it is of no other route. -/
def offersHttp2 (s : Snapshot) (r : Route) : Bool :=
  !s.http2Disabled && s.certificateIndex.findD (servedContents r) 0 ≤ 1

/-- The line of a route in the map of certificates, if it has one. -/
def certificateLine? (settings : Settings) (s : Snapshot) (key : String) (r : Route) :
    Option String :=
  let backend := Backend.ofRoute key r !(servedContents r).isEmpty
  (backend.entryNamed? settings.certificateMap).map fun e =>
    let file := Path.join (Path.join s.workingDir settings.certificateDir) e.key
    let hint := if offersHttp2 s r then [http2Hint] else []
    String.intercalate " " (file :: hint ++ [e.value])

/-- The lines of the map of certificates. -/
def certificateLines (settings : Settings) (s : Snapshot) : List String :=
  descending (s.routes.entries.filterMap fun r => certificateLine? settings s r.1 r.2)

/-- The lines of the map with a file name. -/
def lines (settings : Settings) (fileName : String) (s : Snapshot) : List String :=
  if fileName = settings.certificateMap then certificateLines settings s
  else sortLines ((entries fileName s).map line) HostPattern.wildcardStart

/-- The text of a file of lines. -/
def fileText (lines : List String) : String := String.join (lines.map (· ++ "\n"))

end MapFile

end ProxyMaps
