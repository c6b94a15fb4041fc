/-
Snapshots of the routing table: what one rendering of the proxy's files works
from. The certificate index counts the routes that use a certificate, because
HTTP/2 is offered only for certificates of a single route.
-/
import ProxyMaps.Route

namespace ProxyMaps

/-- The number of routes that hold each certificate, by its contents. -/
abbrev CertificateIndex := Table String Nat

namespace CertificateIndex

/-- The index with one more route, which holds certificates of the given contents. -/
def addRoute (index : CertificateIndex) (contents : List String) : CertificateIndex :=
  contents.foldl (fun i c => i.insert c (i.findD c 0 + 1)) index

/-- The index of the routes of a table. -/
def ofRoutes (routes : Routes) : CertificateIndex :=
  routes.values.foldl (fun i r => addRoute i r.certificateContents) .empty

end CertificateIndex

/-- A snapshot of the routing table. -/
structure Snapshot where
  routes : Routes := .empty
  units : Table String ServiceUnit := .empty
  workingDir : String := ""
  http2Disabled : Bool := false
  certificateIndex : CertificateIndex := .empty

end ProxyMaps
