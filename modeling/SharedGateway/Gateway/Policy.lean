/-
The issuer and zone of a shared gateway. A gateway records both when it is
created, and every route that wants to use it later has to agree: a
disagreement is rejected, never settled by changing the gateway.
-/
import SharedGateway.Gateway.Basic
import SharedGateway.Route.Settings

namespace SharedGateway

-- ============================================================== records

/-- The annotation that records the issuer of a gateway. -/
def issuerKey : String := "cert-manager.io/cluster-issuer"

/-- The infrastructure annotation that records the zone of a gateway. -/
def zoneKey : String := "ipam.vitistack.io/zone"

/-- The issuer that the gateway records. -/
def Object.recordedIssuer? (gateway : Gateway) : Option String :=
  gateway.annotated? issuerKey

/-- The zone that the gateway records. -/
def Object.recordedZone? (gateway : Gateway) : Option String :=
  gateway.spec.infrastructure.bind fun i => i.annotations.find? zoneKey

/-- A new gateway, which records the settings that it will be held to. -/
def Gateway.recording (target : ObjectRef) (settings : GatewaySettings) (className : String)
    (listeners : List Listener) : Gateway where
  metadata := {
    name := some target.name
    ns := some target.ns
    annotations := some (.ofList [(issuerKey, settings.issuer)]) }
  spec := {
    className
    listeners
    infrastructure := some { annotations := .ofList [(zoneKey, settings.zone)] } }

-- =============================================================== policy

/-- What a route and a gateway can disagree about. -/
inductive PolicySubject where
  | clusterIssuer
  | ipamZone
  deriving DecidableEq, Repr

/-- The subject as messages call it. -/
def PolicySubject.toText : PolicySubject → String
  | .clusterIssuer => "cluster issuer"
  | .ipamZone => "IPAM zone"

/-- A disagreement between a gateway and a route. -/
structure PolicyViolation where
  subject : PolicySubject
  gatewayValue : String
  routeValue : String
  deriving DecidableEq, Repr

/-- The disagreement as a message. -/
def PolicyViolation.message (v : PolicyViolation) : String :=
  "Gateway " ++ v.subject.toText ++ " is " ++ Text.quoted v.gatewayValue
    ++ " but route requests " ++ Text.quoted v.routeValue

/-- Holds a route's settings against a gateway. The issuer always counts, and a
gateway without one has the empty issuer; the zone counts once the gateway
records one. -/
def Object.check (gateway : Gateway) (settings : GatewaySettings) :
    Except PolicyViolation Unit :=
  let issuer := gateway.recordedIssuer?.getD ""
  if issuer ≠ settings.issuer then .error ⟨.clusterIssuer, issuer, settings.issuer⟩
  else
    match gateway.recordedZone? with
    | none => .ok ()
    | some zone =>
      if zone ≠ settings.zone then .error ⟨.ipamZone, zone, settings.zone⟩ else .ok ()

end SharedGateway
