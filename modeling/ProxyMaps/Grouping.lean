/-
Routes grouped by host, and the route of a group that supplies what its host
has only one of, the certificate first of all.
-/
import ProxyMaps.Route

namespace ProxyMaps.Routes

/-- Groups of routes by their hosts. -/
abbrev Groups := Table String Routes

/-- The groups with one more route, under its own key in the group of its host. -/
def Groups.addRoute (groups : Groups) (key : String) (r : Route) : Groups :=
  groups.insert r.host ((groups.findD r.host .empty).insert key r)

/-- The routes grouped by host, without those whose TLS the router never looks into. -/
def groupedByHost (routes : Routes) : Groups :=
  (routes.entries.filter fun e => e.2.termination ≠ .passthrough).foldl
    (fun groups e => Groups.addRoute groups e.1 e.2) .empty

/-- The keys of a table of routes, the greatest first. -/
def keysDescending (routes : Routes) : List String := routes.keys.mergeSort fun a b => b ≤ a

/-- Whether the route of a key ends TLS at the router. -/
def endsTls (routes : Routes) (key : String) : Bool :=
  ((routes.find? key).map fun r => r.termination.atRouter).getD false

/--
The key of the primary route: the greatest one of a route that ends TLS at the
router, else the greatest of all. A table without routes has none.
-/
def primaryKey (routes : Routes) : String :=
  let keys := routes.keysDescending
  ((keys.find? routes.endsTls).or keys.head?).getD ""

end ProxyMaps.Routes
