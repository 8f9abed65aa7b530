/-
The listeners that a gateway should have: one for each hostname of the routes
that attach to it. They are computed afresh from all routes every time, so
events that touch one gateway agree on the result whatever their order.
-/
import SharedGateway.Gateway.Listener
import SharedGateway.Route.Settings

namespace SharedGateway

-- ======================================================== which routes

/-- Does the route take part at all? Deleting and disabled routes do not. -/
def Object.takesPart (route : Route) : Bool :=
  !route.isDeleting && route.settings.enabled

/-- Does the route take part and attach to the gateway? -/
def Object.attachesTo (route : Route) (target : ObjectRef) : Bool :=
  route.takesPart && route.parent? = some target

-- ========================================================= aggregation

/-- What the routes together ask of one gateway. -/
structure Aggregation where
  /-- One listener per hostname, in ascending order of the hostnames. -/
  listeners : List Listener
  /-- How many routes attach to the gateway. -/
  matched : Nat
  /-- How many routes take no part. -/
  skipped : Nat
  /-- How many routes there are. -/
  total : Nat
  deriving DecidableEq

namespace Aggregation

/-- The hostnames of the routes that attach to the gateway, each once. -/
def hostnames (routes : List Route) (target : ObjectRef) : Table String Unit :=
  let served := (routes.filter (·.attachesTo target)).flatMap (·.spec.hostnames)
  Table.ofList ((served.filter (· ≠ "")).map fun hostname => (hostname, ()))

/-- What the routes ask of the gateway. -/
def ofRoutes (routes : List Route) (target : ObjectRef) : Aggregation where
  listeners := (hostnames routes target).keys.map fun hostname => .https hostname target.ns
  matched := routes.countP (·.attachesTo target)
  skipped := routes.countP fun route => !route.takesPart
  total := routes.length

/-- Does nobody need the gateway? -/
def isEmpty (a : Aggregation) : Bool :=
  a.listeners.isEmpty

end Aggregation

end SharedGateway
