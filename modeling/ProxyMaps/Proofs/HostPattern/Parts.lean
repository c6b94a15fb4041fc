/-
What the parts of routes stand for, said without patterns: the hosts that a
route serves, the ports, and the paths.
-/
import ProxyMaps.HostPattern
import ProxyMaps.Proofs.Text.Split

namespace ProxyMaps

namespace HostPattern

/-- A path of nothing but slashes. -/
def OnlySlashes (path : String) : Prop := ∀ c ∈ path.toList, c = '/'

/-- A path that ends with a slash. -/
def EndsInSlash (path : String) : Prop := ∃ front, path = front ++ "/"

theorem isRoot_iff {path : String} : isRoot path = true ↔ OnlySlashes path := by
  simp [isRoot, OnlySlashes]

theorem endsWithSlash_iff {path : String} : endsWithSlash path = true ↔ EndsInSlash path := by
  simp only [endsWithSlash, EndsInSlash, decide_eq_true_eq, List.getLast?_eq_some_iff]
  constructor
  · intro h
    obtain ⟨front, h⟩ := h
    refine ⟨String.ofList front, String.toList_inj.1 ?_⟩
    rw [h, String.toList_append, String.toList_ofList]
    rfl
  · intro h
    obtain ⟨front, rfl⟩ := h
    exact ⟨front.toList, by rw [String.toList_append]; rfl⟩

/-- A host has a domain behind its first dot. -/
def HasDomain (host domain : String) : Prop :=
  ∃ label : String, '.' ∉ label.toList ∧ host = label ++ "." ++ domain

/-- The hosts of a route: its own and, if it is a wildcard, those one label below its domain. -/
def ServesHost (host : String) (wildcard : Bool) (s : String) : Prop :=
  s = host ∨ wildcard = true ∧ ∃ domain, domain ≠ "" ∧ HasDomain host domain ∧ HasDomain s domain

/-- Nothing, or a colon and digits. -/
def IsPort (s : String) : Prop :=
  s = "" ∨ ∃ ds : List Char, ds ≠ [] ∧ (∀ d ∈ ds, '0' ≤ d ∧ d ≤ '9') ∧ s = ":" ++ String.ofList ds

/-- The paths of requests that a route's path is for. -/
def ServesPath (path s : String) : Prop :=
  (OnlySlashes path → s = "" ∨ ∃ rest, s = "/" ++ rest) ∧
  (¬ OnlySlashes path → EndsInSlash path → ∃ rest, s = path ++ rest) ∧
  (¬ OnlySlashes path → ¬ EndsInSlash path → s = path ∨ ∃ rest, s = path ++ "/" ++ rest)

/-- The requests that a route is for: a host, a port and a path one after the other. -/
def Serves (host path : String) (wildcard : Bool) (s : String) : Prop :=
  ∃ h p t, s = h ++ p ++ t ∧ ServesHost host wildcard h ∧ IsPort p ∧ ServesPath path t

theorem hasDomain_iff {host domain : String} :
    HasDomain host domain ↔
      ∃ label, Text.cutFirst? '.' host.toList = some (label, domain.toList) := by
  simp only [HasDomain, Text.cutFirst?_eq_some_iff]
  constructor
  · intro h
    obtain ⟨label, hdot, rfl⟩ := h
    exact ⟨label.toList, by simp, hdot⟩
  · intro h
    obtain ⟨label, h, hdot⟩ := h
    refine ⟨String.ofList label, by simpa using hdot, String.toList_inj.1 ?_⟩
    simp [h]

/-- The domain of a host is the one that patterns are made with. -/
theorem HasDomain.eq_parentDomain {host domain : String} (h : HasDomain host domain) :
    parentDomain host = domain := by
  obtain ⟨label, h⟩ := hasDomain_iff.1 h
  simp [parentDomain, h]

theorem hasDomain_parentDomain {host : String} (h : parentDomain host ≠ "") :
    HasDomain host (parentDomain host) := by
  rw [hasDomain_iff]
  cases hc : Text.cutFirst? '.' host.toList with
  | none => simp [parentDomain, hc] at h
  | some p => exact ⟨p.1, by simp [parentDomain, hc]⟩

end HostPattern

end ProxyMaps
