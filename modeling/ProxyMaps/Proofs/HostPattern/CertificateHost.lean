/-
Route patterns and certificate names of wildcard routes. A pattern is for the
domain of its host if there is anything behind the first dot of the host, and a
name if there is anything in front of that dot. So of the hosts that do not start
with a dot, those are named for a domain that their pattern does not know which
end with their first dot (`certificateHost_agrees_iff`).
-/
import Mathlib.Logic.Basic
import ProxyMaps.Proofs.HostPattern.Parts
import ProxyMaps.Proofs.HostPattern.Separation

namespace ProxyMaps.HostPattern

/-- The pattern and the certificate name of a wildcard route are for the domain of its host. -/
def BothForDomain (host path : String) : Prop :=
  ∃ domain rest, domain ≠ "" ∧ HasDomain host domain ∧
    route host path true = "^[^\\.]*" ++ quoteMeta ("." ++ domain) ++ rest ∧
    certificateHost host true = "*." ++ domain

/-- The pattern and the certificate name of a wildcard route are for its host alone. -/
def BothForHost (host path : String) : Prop :=
  route host path true = route host path false ∧ certificateHost host true = host

section

variable {host path domain : String}

/-! ## Patterns -/

theorem exists_route_eq (h : HasDomain host domain) (hdomain : domain ≠ "") :
    ∃ rest, route host path true = "^[^\\.]*" ++ quoteMeta ("." ++ domain) ++ rest := by
  have hhost : hostPart host true = anyLabel ++ quoteMeta ("." ++ domain) := by
    simp [hostPart, h.eq_parentDomain, hdomain]
  refine ⟨"(:[0-9]+)?" ++ pathPart path ++ "$", ?_⟩
  have hstart : "^[^\\.]*" = "^" ++ anyLabel := rfl
  simp only [route, hhost, hstart, String.append_assoc]

/-- A wildcard without a domain has the pattern of its host. -/
theorem route_eq_of_no_domain (h : parentDomain host = "") :
    route host path true = route host path false := by
  simp [route, hostPart, h]

/-- A wildcard with a domain has a pattern of its own. -/
theorem route_ne_of_domain (h : HasDomain host domain) (hdomain : domain ≠ "") :
    route host path true ≠ route host path false := by
  intro heq
  have hwildcard : hostScope host true = .domain domain := by
    simp [hostScope_eq_ite, coversDomain, h.eq_parentDomain, hdomain]
  have hexact : hostScope host false = .host host := by
    simp [hostScope_eq_ite, coversDomain]
  have hchars := congrArg String.toList heq
  rw [toList_route, toList_route, toList_hostPart_eq_pattern, toList_hostPart_eq_pattern,
    hwildcard, hexact] at hchars
  exact pattern_host_ne_domain host domain _ _ (List.cons.inj hchars).2.symm

/-! ## Names -/

theorem certificateHost_eq_of_domain (h : HasDomain host domain)
    (hdot : ∀ rest, host ≠ "." ++ rest) : certificateHost host true = "*." ++ domain := by
  obtain ⟨label, hcut⟩ := hasDomain_iff.1 h
  cases label with
  | nil =>
    obtain ⟨hhost, -⟩ := Text.cutFirst?_eq_some_iff.1 hcut
    refine absurd (String.toList_inj.1 ?_) (hdot domain)
    rw [hhost, String.toList_append]
    rfl
  | cons c label => simp [certificateHost, hcut]

theorem ne_dot_append (h : host.toList.head? ≠ some '.') : ∀ rest, host ≠ "." ++ rest := by
  intro rest hhost
  refine h ?_
  rw [hhost, String.toList_append]
  rfl

theorem certificateHost_eq_of_no_dot (h : ∀ domain, ¬ HasDomain host domain) :
    certificateHost host true = host := by
  cases hcut : Text.cutFirst? '.' host.toList with
  | none => simp [certificateHost, hcut]
  | some p =>
    refine absurd (hasDomain_iff.2 ⟨p.1, ?_⟩) (h (String.ofList p.2))
    rw [hcut, String.toList_ofList]

end

/-- **Patterns and certificate names.** For a wildcard route whose host does not
start with a dot, exactly one of two things holds: pattern and name are both for
the domain of the host, or both for the host alone. That is so unless the host
ends with its first dot; and even then for `*.`, which is what such hosts are
named. -/
theorem certificateHost_agrees_iff {host : String} (hdot : ∀ rest, host ≠ "." ++ rest)
    (path : String) :
    Xor (BothForDomain host path) (BothForHost host path) ↔
      (HasDomain host "" → host = "*.") := by
  by_cases hdomain : parentDomain host = ""
  · have hno : ¬ BothForDomain host path := by
      intro h
      obtain ⟨domain, rest, hne, hhas, -⟩ := h
      exact hne (hhas.eq_parentDomain.symm.trans hdomain)
    have hhost : BothForHost host path ↔ certificateHost host true = host :=
      and_iff_right (route_eq_of_no_domain hdomain)
    rw [xor_iff_or_and_not_and, hhost]
    simp only [hno, false_or, false_and, not_false_iff, and_true]
    by_cases hends : HasDomain host ""
    · rw [certificateHost_eq_of_domain hends hdot]
      simp [hends, eq_comm]
    · have hdots : ∀ domain, ¬ HasDomain host domain := by
        intro domain h
        have hempty : domain = "" := h.eq_parentDomain.symm.trans hdomain
        exact hends (hempty ▸ h)
      simp [certificateHost_eq_of_no_dot hdots, hends]
  · have hhas := hasDomain_parentDomain hdomain
    have hends : ¬ HasDomain host "" := fun h => hdomain h.eq_parentDomain
    obtain ⟨rest, hroute⟩ : ∃ rest, route host path true =
      "^[^\\.]*" ++ quoteMeta ("." ++ parentDomain host) ++ rest := exists_route_eq hhas hdomain
    have hboth : BothForDomain host path :=
      ⟨_, rest, hdomain, hhas, hroute, certificateHost_eq_of_domain hhas hdot⟩
    have hne : ¬ BothForHost host path := fun h => route_ne_of_domain hhas hdomain h.1
    exact iff_of_true (.inl ⟨hboth, hne⟩) fun h => absurd h hends

/-- An asterisk is a label like any other. -/
theorem certificateHost_agrees_asterisk :
    (∀ rest, "*.example.com" ≠ "." ++ rest) ∧
      Xor (BothForDomain "*.example.com" "/") (BothForHost "*.example.com" "/") := by
  have hdot : ∀ rest, "*.example.com" ≠ "." ++ rest := ne_dot_append (by decide)
  refine ⟨hdot, (certificateHost_agrees_iff hdot "/").2 fun hends => ?_⟩
  exact absurd hends.eq_parentDomain (by decide)

/-- The pattern for a host that ends with its first dot is for the host, its name for `*.`. -/
theorem certificateHost_disagrees_of_final_dot :
    (∀ rest, "shop." ≠ "." ++ rest) ∧
      ¬ Xor (BothForDomain "shop." "/") (BothForHost "shop." "/") := by
  refine ⟨ne_dot_append (by decide), fun hxor => ?_⟩
  rcases hxor.or with ⟨domain, rest, hdomain, hhas, -⟩ | ⟨-, hname⟩
  · exact hdomain (hhas.eq_parentDomain.symm.trans (by decide))
  · exact absurd hname (by decide)

end ProxyMaps.HostPattern
