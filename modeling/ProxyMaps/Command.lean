/-
The command line program: it renders the files of a snapshot, or reviews the
annotations of one.
-/
import ProxyMaps.AnnotationReview
import ProxyMaps.Command.Request
import ProxyMaps.Command.Session
import ProxyMaps.Json.Writer
import ProxyMaps.MapFile
import ProxyMaps.Release

namespace ProxyMaps.Command

/-- The name of the program. -/
def programName : String := "routegen"

/-- What a command leaves behind, its files apart. -/
structure Outcome where
  exit : Nat
  output : String := ""
  notices : List Notice := []
  deriving DecidableEq, Repr

variable {m : Type → Type} [Monad m]

/-! ### Rendering maps -/

/-- Writes the map files of a snapshot to a directory; the answer is their number. -/
def writeMaps (host : Host m) (settings : Settings) (dir : String) (s : Snapshot) :
    Session m Nat := do
  Session.orStop (.noDirectory dir) (← host.makeDirectories dir)
  for name in settings.standardMaps do
    let path := Path.join dir name
    let lines := MapFile.lines settings name s
    Session.orStop (.unwritable path) (← host.write path (MapFile.fileText lines))
    Session.log .debug s!"wrote {lines.length} lines to {path}"
  return settings.standardMaps.length

/-- Writes the allowlist file of a route that has an allowlist; tells whether it has been
written. -/
def writeAllowlist (host : Host m) (settings : Settings) (s : Snapshot) (key : String) :
    Session m Bool := do
  match (s.routes.find? key).bind AnnotationName.allowlistOf? with
  | none => return false
  | some value =>
    let write : m (Except AllowlistFile.Fault String) :=
      AllowlistFile.write host settings s.workingDir key value
    match ← write with
    | .ok path => return !path.isEmpty
    | .error f => throw (.allowlist f)

/-- Writes the allowlist files of a snapshot; the answer is the number of those written. -/
def writeAllowlists (host : Host m) (settings : Settings) (s : Snapshot) : Session m Nat := do
  let dir := Path.join s.workingDir settings.allowlistDir
  Session.orStop (.noDirectory dir) (← host.makeDirectories dir)
  let written ← (AnnotationReview.sortedKeys s.routes).mapM (writeAllowlist host settings s)
  return written.count true

/-- The statistics of a run. -/
def statistics (s : Snapshot) (allowlists : Nat) (timers : List Timer) : List String :=
  ["STATS:",
    s!"  routes:        {s.routes.size}",
    s!"  certificates:  {s.certificateIndex.size}",
    s!"  allowlists:    {allowlists}",
    "TIMERS:"] ++ timers.map fun t => s!"  {t.summary}"

/-- A number in a metrics file; one with more than six digits before the point has an exponent. -/
def metricNumber (x : Decimal.Binary64) : List Char :=
  match x with
  | .nan => "NaN".toList
  | .infinite negative => if negative then "-Inf".toList else "+Inf".toList
  | .finite negative _ =>
    let s := Decimal.Shortest.render Decimal.Shortest.plain x
    match Text.cutFirst? '.' s with
    | some (whole, part) =>
      if !negative && 6 < whole.length then
        let digits := whole.take 1 ++ '.' :: (whole.drop 1 ++ part)
        (digits.reverse.dropWhile fun c => c = '0' || c = '.').reverse ++
          "e+0".toList ++ Nat.toDigits 10 (whole.length - 1)
      else s
    | none => s

/-- The lines of a metrics file about a timer. -/
def metricLines (t : Timer) : List String :=
  [s!"# HELP {t.gaugeName} {t.gaugeHelp}",
    s!"# TYPE {t.gaugeName} gauge",
    t.gaugeName ++ " " ++ String.ofList (metricNumber (t.gauge.getD .zero))]

/-- A text that is not empty, if there is one. -/
def filled (s : Option String) : Option String := s.filter fun s => !s.isEmpty

/-- Renders the files of a snapshot. -/
def maps (host : Host m) (settings : Settings) (o : MapsOptions) : Session m Unit := do
  let withGauge := (filled o.metricsFile).isSome
  let override : Snapshot.Override :=
    ⟨o.workingDir, if o.disableHttp2 then some true else none⟩
  let (s, loading) ← Session.timed host (.new "load snapshot" withGauge)
    (Session.loadSnapshot host settings override o.snapshot)
  let dir := (filled o.outputDir).getD (Path.join s.workingDir settings.mapDir)
  let (mapFiles, rendering) ← Session.timed host (.new "map generation" withGauge)
    (writeMaps host settings dir s)
  let (allowlists, listing) ← Session.timed host (.new "allowlist generation" withGauge)
    (writeAllowlists host settings s)
  Session.log .info s!"wrote {mapFiles} map files to {dir} and {allowlists} allowlist files"
  let timers := [loading, rendering, listing]
  if o.stats then
    (statistics s allowlists timers).forM fun l => Session.say (.line l)
  match filled o.metricsFile with
  | none => return
  | some path =>
    let text := MapFile.fileText (timers.flatMap metricLines)
    Session.orStop (.unwritable path) (← host.write path text)

/-! ### Reviewing annotations -/

/-- Reviews the annotations of a snapshot; the answer is the report. -/
def check (host : Host m) (settings : Settings) (o : CheckOptions) : Session m String := do
  let s ← Session.loadSnapshot host settings {} o.snapshot
  let review := AnnotationReview.ofRoutes s.routes
  match Json.write (if o.compact then .compact else .pretty) (AnnotationReview.toJson review) with
  | .error _ => throw .unprintable
  | .ok report =>
    if !review.isEmpty then
      Session.log .warning s!"{review.length} routes have annotations the router will change"
    return report ++ "\n"

/-! ### The program -/

/-- Whether a notice is shown; messages for debugging are shown on demand. -/
def isShown (debug : Bool) : Notice → Bool
  | .message .debug _ => debug
  | _ => true

/-- The outcome of a command; a fault is reported and makes the program fail. -/
def finish (name path : String) (debug : Bool) (work : Session m String) : m Outcome := do
  let (result, notices) ← work.run.run []
  let shown := notices.filter (isShown debug)
  match result with
  | .ok output => return ⟨0, output, shown⟩
  | .error f =>
    let text := s!"EXCEPTION from {name}: {f.message} state_path={path}"
    return ⟨1, "", shown ++ [.message .error text]⟩

/-- What is said about a command line that asks for nothing. -/
def usage : String :=
  s!"usage: {programName} maps STATE [--output-dir DIR] [--working-dir DIR] [--disable-http2] " ++
    s!"[--metrics-file FILE] [--debug] [--stats] | {programName} check STATE [--debug] " ++
    s!"[--nopretty] | {programName} --version"

/-- Runs the program with the arguments of a command line. -/
def run (host : Host m) (settings : Settings) (args : List String) : m Outcome := do
  match Request.of? args with
  | none => return ⟨2, "", [.line usage]⟩
  | some .version => return ⟨0, s!"{programName} {Release.current.version}\n", []⟩
  | some (.maps o) =>
    finish "maps" o.snapshot o.debug (do maps host settings o; return "")
  | some (.check o) => finish "check" o.snapshot o.debug (check host settings o)

end ProxyMaps.Command
