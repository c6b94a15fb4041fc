/-
Settings of the router: directories, names of map files, and switches, each
with a default that an environment variable may replace. Switches are truth
values written as text.
-/
import ProxyMaps.Table
import ProxyMaps.Text.Lower
import ProxyMaps.Text.Split

namespace ProxyMaps.Flag

/-- The spellings of true, in small letters. -/
def trueTexts : List String := ["y", "yes", "t", "true", "on", "1"]

/-- Whether a text, without the white space around it, spells true in any case. -/
def ofText (s : String) : Bool :=
  trueTexts.contains (String.ofList (Text.lower (Text.trim s.toList)))

end ProxyMaps.Flag

namespace ProxyMaps

/-- The variables of an environment. -/
abbrev Environment := Table String String

namespace Environment

/-- A variable that is set and not empty, else the first default that is not empty, else nothing. -/
def firstNonEmpty (env : Environment) (name : String) (defaults : List String) : String :=
  ((env.findD name "" :: defaults).find? fun s => !s.isEmpty).getD ""

end Environment

/-- The settings of the router. -/
structure Settings where
  workingDir : String := "/var/lib/haproxy/router"
  http2Disabled : Bool := false
  logResources : Bool := false
  /-- Where certificates are, seen from the working directory. -/
  certificateDir : String := "certs"
  /-- Where allowlist files go, seen from the working directory. -/
  allowlistDir : String := "allowlists"
  /-- Where map files go, seen from the working directory. -/
  mapDir : String := "conf"
  /-- The name of the map of certificates. -/
  certificateMap : String := "cert_config.map"
  /-- The maps that are written, in order. -/
  standardMaps : List String := [
    "os_wildcard_domain.map", "os_http_be.map", "os_edge_reencrypt_be.map",
    "os_route_http_redirect.map", "os_tcp_be.map", "os_sni_passthrough.map", "cert_config.map"]
  deriving DecidableEq, Repr

namespace Settings

/-- The variables that settings depend on. -/
def variableNames : List String := [
  "ROUTER_WORKING_DIR", "ROUTER_DISABLE_HTTP2", "ROUTER_LOG_RESOURCES", "ROUTER_CERT_DIR",
  "ROUTER_ALLOWLIST_DIR", "ROUTER_MAP_DIR"]

/-- The settings that an environment asks for. -/
def ofEnvironment (env : Environment) : Settings :=
  let base : Settings := {}
  { base with
    workingDir := env.findD "ROUTER_WORKING_DIR" base.workingDir
    http2Disabled := Flag.ofText (env.findD "ROUTER_DISABLE_HTTP2" "")
    logResources := Flag.ofText (env.findD "ROUTER_LOG_RESOURCES" "")
    certificateDir := env.findD "ROUTER_CERT_DIR" base.certificateDir
    allowlistDir := env.findD "ROUTER_ALLOWLIST_DIR" base.allowlistDir
    mapDir := env.findD "ROUTER_MAP_DIR" base.mapDir }

end Settings

end ProxyMaps
