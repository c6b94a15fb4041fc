/-
A review of the annotations of a snapshot: those whose value the router would
change, with the value that is given and the one that takes effect.
-/
import ProxyMaps.Annotation
import ProxyMaps.Json
import ProxyMaps.Snapshot

namespace ProxyMaps

/-- A value that the router would change. -/
structure AnnotationChange where
  name : String
  given : String
  effective : String
  deriving DecidableEq, Repr

namespace AnnotationReview

/-- What the router makes of the annotations with some names. -/
def changesBy (effect : String → String) (names : List String) (r : Route) :
    List AnnotationChange :=
  names.filterMap fun name => do
    let given ← r.annotations.find? name
    let effective := effect given
    if effective = given then none else some ⟨name, given, effective⟩

/-- The annotations of a route that the router would change. -/
def changes (r : Route) : List AnnotationChange :=
  changesBy AnnotationValue.clipTimeout AnnotationName.timeouts r ++
    changesBy AnnotationValue.parseAddressList AnnotationName.allowlists r

/-- The keys of routes in ascending order. -/
def sortedKeys (routes : Routes) : List String := routes.keys.mergeSort fun a b => a ≤ b

/-- The routes with annotations that the router would change, in the order of their keys. -/
def ofRoutes (routes : Routes) : List (String × List AnnotationChange) :=
  (sortedKeys routes).filterMap fun key => do
    let found := changes (← routes.find? key)
    if found.isEmpty then none else some (key, found)

/-- A change as JSON. -/
def changeJson (c : AnnotationChange) : String × Json :=
  (c.name, .object [("given", .text c.given), ("effective", .text c.effective)])

/-- A review as JSON. -/
def toJson (review : List (String × List AnnotationChange)) : Json :=
  .object (review.map fun r => (r.1, .object (r.2.map changeJson)))

end AnnotationReview

end ProxyMaps
