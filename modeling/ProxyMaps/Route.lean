/-
Routes and what belongs to them: how TLS ends, what happens to insecure
requests, certificates, annotations, weighted services and their endpoints.
-/
import ProxyMaps.Table

namespace ProxyMaps

/-- Where the TLS connection of a route ends. -/
inductive Termination where
  /-- The route has no TLS. -/
  | plain
  /-- TLS ends at the router, which talks to the backend in clear. -/
  | edge
  /-- TLS ends at the backend; the router only sees the host name. -/
  | passthrough
  /-- TLS ends at the router, which opens a new TLS connection to the backend. -/
  | reencrypt
  deriving DecidableEq, Repr, Inhabited

namespace Termination

/-- The name of a termination in snapshots. -/
def name : Termination → String
  | plain => ""
  | edge => "edge"
  | passthrough => "passthrough"
  | reencrypt => "reencrypt"

/-- The termination of a name. -/
def ofName? (s : String) : Option Termination :=
  [plain, edge, passthrough, reencrypt].find? fun t => t.name = s

/-- Whether the router itself holds the certificate. -/
def atRouter : Termination → Bool
  | edge | reencrypt => true
  | plain | passthrough => false

end Termination

/-- What the router does with insecure requests to a route with TLS. -/
inductive InsecurePolicy where
  | unset
  | deny
  | allow
  | redirect
  deriving DecidableEq, Repr, Inhabited

namespace InsecurePolicy

/-- The name of a policy in snapshots. -/
def name : InsecurePolicy → String
  | unset => ""
  | deny => "None"
  | allow => "Allow"
  | redirect => "Redirect"

/-- The policy of a name. -/
def ofName? (s : String) : Option InsecurePolicy :=
  [unset, deny, allow, redirect].find? fun p => p.name = s

end InsecurePolicy

/-- A certificate of a route; certificates with the same contents are the same certificate. -/
structure Certificate where
  id : String
  contents : String
  deriving DecidableEq, Repr

/-- One address that serves a service. -/
structure Endpoint where
  id : String
  ip : String
  port : String
  targetName : String
  portName : String
  deriving DecidableEq, Repr

/-- A service with its endpoints, in the order in which they were found. -/
structure ServiceUnit where
  name : String
  endpoints : List Endpoint
  deriving DecidableEq, Repr

/-- A binding of a host and a path to services. -/
structure Route where
  name : String := ""
  nameSpace : String := ""
  host : String := ""
  path : String := ""
  wildcard : Bool := false
  termination : Termination := .plain
  insecurePolicy : InsecurePolicy := .unset
  preferredPort : String := ""
  /-- The certificates of the route by their keys. -/
  certificates : Table String Certificate := .empty
  annotations : Table String String := .empty
  /-- The weights of the services that the route sends requests to. -/
  weights : Table String Int := .empty

namespace Route

/-- The key of the certificate that a route serves. -/
def certificateKey (r : Route) : String := r.host

/-- The certificate that a route serves; a route without a host serves none. -/
def servedCertificate? (r : Route) : Option Certificate :=
  if r.host.isEmpty then none else r.certificates.find? r.certificateKey

/-- The contents of the certificates of a route, each once; empty contents are no certificate. -/
def certificateContents (r : Route) : List String :=
  (r.certificates.values.filterMap fun c =>
    if c.contents.isEmpty then none else some c.contents).eraseDups

/-- The endpoints of a service that a route sends requests to: those of its preferred port, if
it has one. -/
def endpointsOf (r : Route) (unit : ServiceUnit) : List Endpoint :=
  if r.preferredPort.isEmpty then unit.endpoints
  else unit.endpoints.filter fun e => e.portName = r.preferredPort || e.port = r.preferredPort

end Route

/-- Routes by their keys. -/
abbrev Routes := Table String Route

end ProxyMaps
