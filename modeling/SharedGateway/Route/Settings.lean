/-
What a route asks of the operator, in its annotations: whether it takes part at
all, which issuer and zone it declares, and the two bookkeeping entries that
the operator itself writes. The annotations are looked up here once, and
everything else works on the settings.
-/
import SharedGateway.Config
import SharedGateway.Route.Basic

namespace SharedGateway

-- ================================================================= keys

namespace AnnotationKey

/-- Opts a route in; only the text `true` does. -/
def enabled : String := "gatewayapi-operator.vitistack.io/enabled"

/-- The certificate issuer that a route declares. -/
def clusterIssuer : String := "gatewayapi-operator.vitistack.io/cluster-issuer"

/-- The address zone that a route declares. -/
def ipamZone : String := "ipam.vitistack.io/zone"

/-- Bookkeeping: present once the operator has processed the route. -/
def reconciled : String := "gatewayapi-operator.vitistack.io/reconciled"

/-- Bookkeeping: the gateway that the route was last synced to, written
`namespace/name`. -/
def previousGateway : String := "gatewayapi-operator.vitistack.io/previous-gateway"

end AnnotationKey

/-- The operator's own finalizer, which it puts on every route it manages. -/
def finalizer : String := "gatewayapi-operator.vitistack.io/finalizer"

-- ============================================================= settings

/-- The issuer and the zone that a gateway must have to serve a route. -/
structure GatewaySettings where
  issuer : String
  zone : String
  deriving DecidableEq, Repr

/-- The operator's view of a route's annotations. -/
structure RouteSettings where
  enabled : Bool := false
  /-- The declared issuer; an empty declaration is none. -/
  issuer : Option String := none
  /-- The declared zone; an empty declaration is none. -/
  zone : Option String := none
  reconciled : Bool := false
  /-- The bookkeeping text as it stands, which may be no reference at all. -/
  previousGateway : Option String := none
  deriving DecidableEq, Repr

namespace RouteSettings

/-- An entry of the table that is not empty. -/
def declared? (annotations : Table String String) (key : String) : Option String :=
  (annotations.find? key).filter (· ≠ "")

/-- The settings that the annotations give. -/
def ofAnnotations (annotations : Table String String) : RouteSettings where
  enabled := annotations.find? AnnotationKey.enabled = some "true"
  issuer := declared? annotations AnnotationKey.clusterIssuer
  zone := declared? annotations AnnotationKey.ipamZone
  reconciled := annotations.contains AnnotationKey.reconciled
  previousGateway := declared? annotations AnnotationKey.previousGateway

/-- What the route wants of its gateway: what it declares, and the configured
defaults where it declares nothing. -/
def effective (s : RouteSettings) (config : Config) : GatewaySettings where
  issuer := s.issuer.getD config.defaultIssuer
  zone := s.zone.getD config.defaultZone

/-- The gateway that the bookkeeping names, if its text is a reference. -/
def previous? (s : RouteSettings) : Option ObjectRef :=
  s.previousGateway.bind ObjectRef.ofText?

end RouteSettings

-- =============================================================== routes

/-- The settings of a route. -/
def Object.settings (route : Route) : RouteSettings :=
  RouteSettings.ofAnnotations (route.metadata.annotations.getD .empty)

/-- Is the route held by the operator's own finalizer? -/
def Object.isManaged (route : Route) : Bool :=
  route.finalizers.contains finalizer

end SharedGateway
