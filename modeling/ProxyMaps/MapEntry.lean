/-
Entries of the proxy's maps: what one route contributes to each of them.
-/
import ProxyMaps.HostPattern

namespace ProxyMaps

/-- What decides to which maps a route belongs, and what its entries look like. -/
structure Backend where
  name : String
  host : String
  path : String
  wildcard : Bool
  termination : Termination
  insecurePolicy : InsecurePolicy
  hasCertificate : Bool
  deriving DecidableEq, Repr

/-- A line of a map before it is written: a key, usually a pattern, and its value. -/
structure MapEntry where
  key : String
  value : String
  deriving DecidableEq, Repr

/-- The maps that routes are entered in. -/
inductive MapKind where
  /-- The hosts of wildcard routes. -/
  | wildcardDomain
  /-- The backends of requests without TLS. -/
  | http
  /-- The backends of requests whose TLS ends at the router. -/
  | edgeReencrypt
  /-- The routes that answer insecure requests with a redirection. -/
  | httpRedirect
  /-- The backends of connections that are told apart by host name alone. -/
  | tcp
  /-- The hosts whose TLS the router does not end. -/
  | sniPassthrough
  /-- The certificates of routes. -/
  | certificates
  deriving DecidableEq, Repr

namespace MapKind

/-- All kinds of maps. -/
def all : List MapKind :=
  [wildcardDomain, http, edgeReencrypt, httpRedirect, tcp, sniPassthrough, certificates]

/-- The file name of a map. -/
def fileName : MapKind → String
  | wildcardDomain => "os_wildcard_domain.map"
  | http => "os_http_be.map"
  | edgeReencrypt => "os_edge_reencrypt_be.map"
  | httpRedirect => "os_route_http_redirect.map"
  | tcp => "os_tcp_be.map"
  | sniPassthrough => "os_sni_passthrough.map"
  | certificates => "cert_config.map"

/-- The kind of map with a file name. -/
def ofFileName? (name : String) : Option MapKind := all.find? fun k => k.fileName = name

theorem ofFileName?_fileName (k : MapKind) : ofFileName? k.fileName = some k := by
  cases k <;> decide

end MapKind

namespace Backend

/-- The backend of a route under a key. -/
def ofRoute (key : String) (r : Route) (hasCertificate : Bool) : Backend where
  name := key
  host := r.host
  path := r.path
  wildcard := r.wildcard
  termination := r.termination
  insecurePolicy := r.insecurePolicy
  hasCertificate := hasCertificate

/-- The pattern for the requests of a backend. -/
def pattern (b : Backend) : String := HostPattern.route b.host b.path b.wildcard

/-- The pattern for the hosts of a backend. -/
def hostPattern (b : Backend) : String := HostPattern.route b.host "" b.wildcard

/-- The name by which the proxy knows a backend. -/
def fullName (b : Backend) : String := HostPattern.backendKind b.termination ++ ":" ++ b.name

/-- Whether a backend belongs to a map. -/
def belongsTo (b : Backend) : MapKind → Bool
  | .wildcardDomain => b.wildcard
  | .http => b.termination = .plain || (b.termination.atRouter && b.insecurePolicy = .allow)
  | .edgeReencrypt => b.termination.atRouter
  | .httpRedirect => b.insecurePolicy = .redirect
  | .tcp => b.path.isEmpty && (b.termination = .passthrough || b.termination = .reencrypt)
  | .sniPassthrough => b.path.isEmpty && b.termination = .passthrough
  | .certificates => b.termination.atRouter && b.hasCertificate

/-- What a backend that belongs to a map is entered as. -/
def entryIn (b : Backend) : MapKind → MapEntry
  | .wildcardDomain => ⟨HostPattern.route b.host "" true, "1"⟩
  | .http => ⟨b.pattern, b.fullName⟩
  | .edgeReencrypt => ⟨b.pattern, b.fullName⟩
  | .httpRedirect => ⟨b.pattern, b.name⟩
  | .tcp => ⟨b.hostPattern, b.name⟩
  | .sniPassthrough => ⟨b.hostPattern, "1"⟩
  | .certificates => ⟨b.name ++ ".pem", HostPattern.certificateHost b.host b.wildcard⟩

/-- The entry of a backend in a map; one without a host is in no map. -/
def entryOf? (b : Backend) (k : MapKind) : Option MapEntry :=
  if !b.host.isEmpty && b.belongsTo k then some (b.entryIn k) else none

/-- The entry of a backend in the map with a file name; there may be no such map. -/
def entryNamed? (b : Backend) (fileName : String) : Option MapEntry :=
  (MapKind.ofFileName? fileName).bind b.entryOf?

end Backend

end ProxyMaps
