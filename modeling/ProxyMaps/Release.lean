/-
The release text: a version and a commit on two lines.
-/
import ProxyMaps.Text.Split

namespace ProxyMaps

/-- What is known of a release. -/
structure Release where
  version : String
  commit : String
  deriving DecidableEq, Repr

namespace Release

/-- The release of a text, or of a missing one. -/
def read : Option String → Release
  | none => ⟨"MISSING(FILE)", "MISSING(FILE)"⟩
  | some text =>
    match List.splitOn '\n' (Text.Line.normalize text.toList) with
    | version :: commit :: _ => ⟨String.ofList version, String.ofList commit⟩
    | version => ⟨String.ofList version.flatten, "MISSING(VAL)"⟩

/-- The release of this library. -/
def current : Release := ⟨"0.1.0", "dev"⟩

end Release

end ProxyMaps
