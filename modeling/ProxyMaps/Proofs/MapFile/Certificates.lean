/-
The map of certificates: which routes have a line in it, what the line is, and
when it offers HTTP/2.

A route has a line exactly when it presents a certificate (`Presents`). The
line offers HTTP/2 only for a certificate that no other route carries
(`Unshared`); that the index of certificates decides this is
`offersHttp2_iff`. Everything a line says is the same for routes in another
order, so the whole map is.
-/
import ProxyMaps.Proofs.CertificateIndex
import ProxyMaps.Proofs.MapFile.Order

namespace ProxyMaps.MapFile

/-! ## What a line says -/

instance decidableExistsSome {α : Type} (o : Option α) (p : α → Prop) [DecidablePred p] :
    Decidable (∃ a, o = some a ∧ p a) :=
  match o with
  | none => isFalse (by simp)
  | some a => decidable_of_iff (p a) (by simp)

/-- A route ends TLS at the router and keeps a certificate with contents under its own host. -/
def Presents (r : Route) : Prop :=
  r.host ≠ "" ∧ (r.termination = .edge ∨ r.termination = .reencrypt) ∧
    ∃ c, r.certificates.find? r.host = some c ∧ c.contents ≠ ""

instance : DecidablePred Presents := fun r =>
  inferInstanceAs (Decidable (r.host ≠ "" ∧ (r.termination = .edge ∨ r.termination = .reencrypt) ∧
    ∃ c, r.certificates.find? r.host = some c ∧ c.contents ≠ ""))

/-- No route but that of a key carries a certificate with the given contents. -/
def Unshared (routes : Routes) (key contents : String) : Prop :=
  ∀ e ∈ routes.entries, e.1 ≠ key → ¬ e.2.Carries contents

instance (routes : Routes) (key : String) : DecidablePred (Unshared routes key) := fun contents =>
  inferInstanceAs (Decidable (∀ e ∈ routes.entries, e.1 ≠ key → ¬ e.2.Carries contents))

/-- HTTP/2 is wanted, and the certificate under the host of a route is that of no other route. -/
def SafeForHttp2 (routes : Routes) (http2Disabled : Bool) (key : String) (r : Route) : Prop :=
  http2Disabled = false ∧
    ∃ c, r.certificates.find? r.host = some c ∧ Unshared routes key c.contents

instance (routes : Routes) (http2Disabled : Bool) (key : String) (r : Route) :
    Decidable (SafeForHttp2 routes http2Disabled key r) :=
  inferInstanceAs (Decidable (http2Disabled = false ∧
    ∃ c, r.certificates.find? r.host = some c ∧ Unshared routes key c.contents))

/-- The line of a route that presents a certificate: its file, perhaps the hint, its host name. -/
def presentedLine (routes : Routes) (workingDir : String) (http2Disabled : Bool) (key : String)
    (r : Route) : String :=
  String.intercalate " " ([Path.join (Path.join workingDir "certs") (key ++ ".pem")] ++
    (if SafeForHttp2 routes http2Disabled key r then ["[alpn h2,http/1.1]"] else []) ++
    [HostPattern.certificateHost r.host r.wildcard])

theorem SafeForHttp2.congr {routes routes' : Routes} (h : routes.entries.Perm routes'.entries)
    (http2Disabled : Bool) (key : String) (r : Route) :
    SafeForHttp2 routes http2Disabled key r ↔ SafeForHttp2 routes' http2Disabled key r := by
  simp only [SafeForHttp2, Unshared, h.mem_iff]

theorem presentedLine_congr {routes routes' : Routes} (h : routes.entries.Perm routes'.entries)
    (workingDir : String) (http2Disabled : Bool) (key : String) (r : Route) :
    presentedLine routes workingDir http2Disabled key r =
      presentedLine routes' workingDir http2Disabled key r := by
  simp only [presentedLine, SafeForHttp2.congr h]

/-! ## The line of a route -/

theorem isEmpty_servedContents_eq_false_iff {r : Route} (hhost : r.host ≠ "") :
    (servedContents r).isEmpty = false ↔
      ∃ c, r.certificates.find? r.host = some c ∧ c.contents ≠ "" := by
  simp only [servedContents, Route.servedCertificate?, Route.certificateKey, hhost,
    String.isEmpty_iff, if_false, String.isEmpty_eq_false_iff]
  cases r.certificates.find? r.host with
  | none => simp
  | some c => simp

theorem atRouter_iff {t : Termination} : t.atRouter = true ↔ t = .edge ∨ t = .reencrypt := by
  cases t <;> simp [Termination.atRouter]

/-- The index of the routes themselves decides whether HTTP/2 is safe for a route. -/
theorem offersHttp2_iff {s : Snapshot} (hindex : s.certificateIndex = .ofRoutes s.routes)
    {key : String} {r : Route} (hr : (key, r) ∈ s.routes.entries) (hp : Presents r) :
    offersHttp2 s r = true ↔ SafeForHttp2 s.routes s.http2Disabled key r := by
  obtain ⟨hhost, -, c, hc, hne⟩ := hp
  have hserved : servedContents r = c.contents := by
    simp [servedContents, Route.servedCertificate?, Route.certificateKey, hhost, hc]
  have hcarries : r.Carries c.contents := by
    obtain ⟨e, he, rfl⟩ := Option.map_eq_some_iff.1 hc
    exact ⟨e.2, List.mem_map_of_mem (List.mem_of_find?_eq_some he), rfl⟩
  have hcount := CertificateIndex.findD_ofRoutes_le_one_iff hr hne hcarries
  simp only [offersHttp2, hindex, hserved, Bool.and_eq_true, Bool.not_eq_true', decide_eq_true_eq,
    SafeForHttp2, hc, Option.some.injEq, exists_eq_left', Unshared]
  exact and_congr_right fun _ => hcount

/-- The line of a route, if it presents a certificate; the index decides on the hint. -/
theorem certificateLine?_eq_ite (s : Snapshot) (key : String) (r : Route) :
    certificateLine? {} s key r =
      if Presents r then
        some (String.intercalate " " ([Path.join (Path.join s.workingDir "certs") (key ++ ".pem")] ++
          (if offersHttp2 s r then ["[alpn h2,http/1.1]"] else []) ++
          [HostPattern.certificateHost r.host r.wildcard]))
      else none := by
  have hentry : ∀ b : Backend, b.entryNamed? ({} : Settings).certificateMap =
      if b.host ≠ "" ∧ b.termination.atRouter = true ∧ b.hasCertificate = true then
        some ⟨b.name ++ ".pem", HostPattern.certificateHost b.host b.wildcard⟩ else none := by
    intro b
    have hkind : MapKind.ofFileName? ({} : Settings).certificateMap = some .certificates :=
      MapKind.ofFileName?_fileName .certificates
    simp [Backend.entryNamed?, hkind, Backend.entryOf?, Backend.belongsTo, Backend.entryIn]
  have hbelongs : (r.host ≠ "" ∧ r.termination.atRouter = true ∧
      (!(servedContents r).isEmpty) = true) ↔ Presents r := by
    rw [Bool.not_eq_true', atRouter_iff]
    exact and_congr_right fun h => and_congr_right fun _ => isEmpty_servedContents_eq_false_iff h
  simp only [certificateLine?, hentry, Backend.ofRoute, hbelongs]
  by_cases hp : Presents r
  · simp only [hp, if_true, Option.map_some]
    rfl
  · simp only [hp, if_false, Option.map_none]

theorem certificateLine?_eq {s : Snapshot} (hindex : s.certificateIndex = .ofRoutes s.routes)
    {key : String} {r : Route} (hr : (key, r) ∈ s.routes.entries) :
    certificateLine? {} s key r =
      if Presents r then some (presentedLine s.routes s.workingDir s.http2Disabled key r)
      else none := by
  rw [certificateLine?_eq_ite]
  by_cases hp : Presents r
  · simp only [hp, if_true, presentedLine, offersHttp2_iff hindex hr hp]
  · rw [if_neg hp, if_neg hp]

/-! ## The whole map -/

/-- The lines before they are put in order. -/
theorem filterMap_certificateLine? {s : Snapshot}
    (hindex : s.certificateIndex = .ofRoutes s.routes) :
    s.routes.entries.filterMap (fun e => certificateLine? {} s e.1 e.2) =
      (s.routes.entries.filter fun e => Presents e.2).map fun e =>
        presentedLine s.routes s.workingDir s.http2Disabled e.1 e.2 := by
  rw [← List.filterMap_eq_map', ← List.filterMap_eq_filter, List.filterMap_filterMap]
  refine List.filterMap_congr fun e he => ?_
  rw [certificateLine?_eq hindex he]
  by_cases hp : Presents e.2 <;> simp [Option.guard, hp]

/-- **The map of certificates.** With the default settings and the index of its
own routes, the map holds one line for each route that presents a certificate
and no others, in descending order, and the order of the routes is no matter. -/
theorem certificateLines_exact {s : Snapshot}
    (hindex : s.certificateIndex = .ofRoutes s.routes) :
    (certificateLines {} s).Perm ((s.routes.entries.filter fun e => Presents e.2).map fun e =>
      presentedLine s.routes s.workingDir s.http2Disabled e.1 e.2) ∧
    (certificateLines {} s).Pairwise (fun a b => b ≤ a) ∧
    ∀ routes : Routes, routes.entries.Perm s.routes.entries →
      certificateLines {} { s with routes, certificateIndex := .ofRoutes routes } =
        certificateLines {} s := by
  refine ⟨?_, pairwise_descending _, fun routes hperm => ?_⟩
  · rw [certificateLines, filterMap_certificateLine? hindex]
    exact descending_perm _
  · refine descending_eq_of_perm ?_
    rw [filterMap_certificateLine? hindex, filterMap_certificateLine? rfl]
    simp only [presentedLine_congr hperm]
    exact (hperm.filter _).map _

theorem certificateLines_shared_and_unshared :
    let shared : Certificate := ⟨"a.b", "SHARED"⟩
    let routes : Routes := .ofList [
      ("n:1", { host := "a.b", termination := .edge, certificates := .ofList [("a.b", shared)] }),
      ("n:2", { host := "c.d", termination := .reencrypt, wildcard := true
                certificates := .ofList [("c.d", ⟨"c.d", "OWN"⟩)] }),
      ("n:3", { termination := .passthrough, certificates := .ofList [("other", shared)] })]
    let s : Snapshot := { routes, workingDir := "/w", certificateIndex := .ofRoutes routes }
    s.certificateIndex = .ofRoutes s.routes ∧
      (certificateLines {} s).Perm
        ["/w/certs/n:1.pem a.b", "/w/certs/n:2.pem [alpn h2,http/1.1] *.d"] :=
  ⟨rfl, (certificateLines_exact rfl).1.trans (.of_eq (by decide))⟩

end ProxyMaps.MapFile
