/-
The helpers that templates have. Each is a function of this library under the
name and with the parameters that templates know.
-/
import ProxyMaps.Allowlist
import ProxyMaps.Annotation
import ProxyMaps.Helper.Argument
import ProxyMaps.Helper.Registry
import ProxyMaps.MapFile
import ProxyMaps.Regex.Cache

namespace ProxyMaps.Helper

/-- Why a helper gives no answer. -/
inductive RunFault where
  /-- A pattern is none, in a way that the helper does not expect. -/
  | pattern (f : Regex.Fault)
  /-- A numeral has too many digits to be read. -/
  | numeral (digits : Nat)
  | file (f : AllowlistFile.Fault)
  /-- A text cannot be indented that far. -/
  | indentation (f : AnnotationValue.IndentFault)
  /-- An argument is of the wrong kind. -/
  | argument
  deriving DecidableEq, Repr

/-- What helpers know of their surroundings. -/
structure Surroundings where
  environment : Environment := .empty
  settings : Settings := {}

/-- What helpers change: the compiled patterns, and files. -/
structure World where
  cache : Regex.Cache := {}
  files : FileTree := {}

/-- The run of a helper. -/
abbrev Run := ExceptT RunFault (StateM World)

namespace Run

/-- A run that only uses the compiled patterns. -/
def ofCache {α : Type} (x : StateM Regex.Cache (Except Regex.Fault α)) : Run α := fun w =>
  match x w.cache with
  | (.ok a, cache) => (.ok a, { w with cache := cache })
  | (.error f, cache) => (.error (.pattern f), { w with cache := cache })

/-- A run that only uses files. -/
def ofFiles {α : Type} (x : StateM FileTree (Except AllowlistFile.Fault α)) : Run α := fun w =>
  match x w.files with
  | (.ok a, files) => (.ok a, { w with files := files })
  | (.error f, files) => (.error (.file f), { w with files := files })

end Run

/-- The name of a backend's kind for a termination or the name of one; other names are as none. -/
def backendKindOf : Argument → Option String
  | .termination t => some (HostPattern.backendKind t)
  | .data (.text s) => some (HostPattern.backendKind ((Termination.ofName? s).getD .plain))
  | _ => none

/-- The endpoints of a route in a service, in another order if the action is to shuffle. -/
def processEndpoints (r : Route) (u : ServiceUnit) (action : String)
    (shuffle : List Endpoint → List Endpoint) : List Endpoint :=
  let es := r.endpointsOf u
  if Text.lower action.toList = "shuffle".toList then shuffle es else es

/-- All arguments as texts. -/
def allTexts? (args : List Argument) : Option (List String) := args.mapM Argument.text?

/-- An answer if there is one, else the fault that an argument is of the wrong kind. -/
def orArgument : Option Argument → Run Argument
  | some a => pure a
  | none => throw .argument

/-- The answer of a function of one text. -/
def onText (f : String → Argument) : List Argument → Run Argument
  | [a] => orArgument (a.text?.map f)
  | _ => throw .argument

/-- A parameter that has no default. -/
def required (name : String) : Parameter := ⟨name, .positional, false⟩

/-- A parameter for all arguments that are left. -/
def others (name : String) : Parameter := ⟨name, .varPositional, false⟩

/-- A helper before it is registered. -/
structure Entry where
  name : String
  signature : Signature
  description : String
  run : List Argument → Run Argument

variable [Text.CharacterNames]

/-- The helpers for patterns and matching. -/
def patternEntries : List Entry := [
  { name := "matchPattern"
    signature := [required "pattern", required "s"]
    description := "anchors a regular expression and matches a string"
    run := fun args =>
      match allTexts? args with
      | some [pattern, s] => .bool <$> Run.ofCache (Regex.Cache.matchesAll pattern s)
      | _ => throw .argument },
  { name := "isInteger"
    signature := [required "s"]
    description := "determines if a given value is an integer"
    run := fun args =>
      match allTexts? args with
      | some [s] =>
        match AnnotationValue.isInteger s with
        | .ok b => pure (.bool b)
        | .error (.tooLong n) => throw (.numeral n)
        | .error .malformed => throw .argument
      | _ => throw .argument },
  { name := "matchValues"
    signature := [required "s", others "allowed_values"]
    description := "compares a string to a list of allowed strings"
    run := fun args =>
      match allTexts? args with
      | some (s :: allowed) => pure (.bool (allowed.contains s))
      | _ => throw .argument },
  { name := "genSubdomainWildcardRegexp"
    signature := [required "hostname", required "path", required "exact_path"]
    description := "generates a regexp matching the subdomain of a wildcard route"
    run := fun args =>
      match args with
      | [.data (.text host), .data (.text path), exact] =>
        pure (.text (HostPattern.subdomain host path exact.isTruthy))
      | _ => throw .argument },
  { name := "generateRouteRegexp"
    signature := [required "hostname", required "path", required "wildcard"]
    description := "generates a regexp matching route hosts"
    run := fun args =>
      match args with
      | [.data (.text host), .data (.text path), wildcard] =>
        pure (.text (HostPattern.route host path wildcard.isTruthy))
      | _ => throw .argument },
  { name := "genCertificateHostName"
    signature := [required "hostname", required "wildcard"]
    description := "generates the host name used to match certificates"
    run := fun args =>
      match args with
      | [.data (.text host), wildcard] =>
        pure (.text (HostPattern.certificateHost host wildcard.isTruthy))
      | _ => throw .argument },
  { name := "genBackendNamePrefix"
    signature := [required "termination"]
    description := "generates a backend name prefix"
    run := fun args =>
      match args with
      | [a] => orArgument ((backendKindOf a).map .text)
      | _ => throw .argument },
  { name := "isTrue"
    signature := [required "s"]
    description := "determines if a given value is true"
    run := onText fun s => .bool (AnnotationValue.isTrue s) },
  { name := "firstMatch"
    signature := [required "pattern", others "values"]
    description := "returns the first value an anchored regular expression matches, or empty"
    run := fun args =>
      match allTexts? args with
      | some (pattern :: values) => .text <$> Run.ofCache (Regex.Cache.firstMatch pattern values)
      | _ => throw .argument }]

/-- The helpers for the endpoints of routes and for the environment. -/
def endpointEntries (env : Environment) : List Entry := [
  { name := "endpointsForAlias"
    signature := [required "alias", required "svc"]
    description := "returns the list of valid endpoints"
    run := fun args =>
      match args with
      | [.route r, .unit u] => pure (.endpoints (r.endpointsOf u))
      | _ => throw .argument },
  { name := "processEndpointsForAlias"
    signature := [required "alias", required "svc", required "action", ⟨"rng", .positional, true⟩]
    description := "returns the list of valid endpoints after processing them"
    run := fun args =>
      match args with
      | [.route r, .unit u, .data (.text action)] =>
        pure (.endpoints (processEndpoints r u action id))
      | [.route r, .unit u, .data (.text action), .shuffler shuffle] =>
        pure (.endpoints (processEndpoints r u action shuffle))
      | _ => throw .argument },
  { name := "env"
    signature := [required "name", others "defaults"]
    description := "returns an environment variable, or the first non-empty default"
    run := fun args =>
      match allTexts? args with
      | some (name :: defaults) => pure (.text (env.firstNonEmpty name defaults))
      | _ => throw .argument }]

/-- The helpers for groups of routes and for the files of the proxy. -/
def fileEntries (settings : Settings) : List Entry := [
  { name := "getHTTPAliasesGroupedByHost"
    signature := [required "aliases"]
    description := "returns HTTP(S) aliases grouped by host"
    run := fun args =>
      match args with
      | [.routes rs] => pure (.groups rs.groupedByHost)
      | _ => throw .argument },
  { name := "getPrimaryAliasKey"
    signature := [required "aliases"]
    description := "returns the primary alias for a host"
    run := fun args =>
      match args with
      | [.routes rs] => pure (.text rs.primaryKey)
      | _ => throw .argument },
  { name := "generateHAProxyMap"
    signature := [required "name", required "td"]
    description := "generates haproxy map contents"
    run := fun args =>
      match args with
      | [.data (.text name), .snapshot s] => pure (.texts (MapFile.lines settings name s))
      | _ => throw .argument },
  { name := "validateHAProxyAllowlist"
    signature := [required "value"]
    description := "validates a haproxy allowlist (acl)"
    run := onText fun s => .bool (Allowlist.isValid s) },
  { name := "generateHAProxyAllowlistFile"
    signature := [required "working_dir", required "key", required "value"]
    description := "generates a haproxy allowlist file for use in an acl"
    run := fun args =>
      match allTexts? args with
      | some [workingDir, key, value] =>
        .text <$> Run.ofFiles (AllowlistFile.write Host.ofFileTree settings workingDir key value)
      | _ => throw .argument }]

/-- The helpers for annotations. -/
def annotationEntries : List Entry := [
  { name := "clipHAProxyTimeoutValue"
    signature := [required "val"]
    description := "clips timeout values to the maximum haproxy allows"
    run := onText fun s => .text (AnnotationValue.clipTimeout s) },
  { name := "parseIPList"
    signature := [required "ip_list"]
    description := "parses a list of IPs/CIDRs"
    run := onText fun s => .text (AnnotationValue.parseAddressList s) },
  { name := "indent"
    signature := [required "text", required "spaces"]
    description := "indents a multiline string"
    run := fun args =>
      match args with
      | [.data (.text s), .data (.int n)] =>
        match AnnotationValue.indent s n with
        | .ok indented => pure (.text indented)
        | .error f => throw (.indentation f)
      | _ => throw .argument },
  { name := "processRewriteTarget"
    signature := [required "val"]
    description := "sanitizes the rewrite-target annotation"
    run := onText fun s => .text (AnnotationValue.rewriteTarget s) }]

/-- All helpers, in the order of their registration. -/
def entries (around : Surroundings) : List Entry :=
  endpointEntries around.environment ++ patternEntries ++ fileEntries around.settings ++
    annotationEntries

/-- A registry with one more helper, if it can be registered. -/
def addEntry (r : Registry Argument (Run Argument)) (e : Entry) :
    Registry Argument (Run Argument) :=
  match r.register e.name e.signature e.run e.description with
  | .ok (_, r) => r
  | .error _ => r

/-- The registry of all helpers. -/
def standard (surroundings : Surroundings) : Registry Argument (Run Argument) :=
  (entries surroundings).foldl addEntry .empty

end ProxyMaps.Helper
