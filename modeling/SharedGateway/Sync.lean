/-
Keeping one gateway in line with the routes that attach to it. The listeners
are computed from all routes each time: a gateway that nobody needs is deleted,
one with other listeners is patched, one that is missing is created. Every
write states the version that was read, so it never overwrites a change that
it has not seen.
-/
import SharedGateway.Aggregation
import SharedGateway.Cluster.Script
import SharedGateway.Gateway.Policy

namespace SharedGateway

/-- Why a gateway could not be brought in line. -/
inductive SyncError where
  | store (cause : StoreError)
  | policy (violation : PolicyViolation)
  deriving DecidableEq, Repr

instance : MonadLift (Script StoreError) (Script SyncError) where
  monadLift := Script.mapError .store

/-- What a sync did to a gateway. -/
inductive SyncOutcome where
  | created
  | patched
  | unchanged
  | deleted
  /-- There is no gateway and none was created. -/
  | absent
  deriving DecidableEq, Repr

namespace Sync

-- ======================================================== what to write

/-- The patch that replaces the listeners of a gateway as it was read. Class,
records and all else stay with whoever owns them. -/
def listenersPatch (existing : Gateway) (listeners : List Listener) : Json :=
  Json.object [
    ("metadata", some (Json.object [
      ("resourceVersion", some (Json.orNull (existing.resourceVersion.map .str)))])),
    ("spec", some (Json.object [
      ("listeners", some (.arr (listeners.map Listener.toJson)))]))]

/-- Do the two lists have the same length and the same members? -/
def sameListeners (current desired : List Listener) : Bool :=
  current.length = desired.length
    && desired.all (current.contains ·)
    && current.all (desired.contains ·)

-- ================================================================ steps

/-- Reads all routes and computes what they ask of the gateway. -/
def collect (target : ObjectRef) : Script StoreError Aggregation := do
  let routes ← Routes.list
  return .ofRoutes routes target

/-- Deletes a gateway as it was read. One that is gone already is as good. -/
def remove (target : ObjectRef) (existing : Gateway) : Script SyncError SyncOutcome := do
  match ← (Gateways.delete target existing.resourceVersion).attempt with
  | .ok () => return .deleted
  | .error cause => if cause.isNotFound then return .absent else .fail (.store cause)

/-- Brings a gateway as it was read in line with the routes. -/
def syncExisting (target : ObjectRef) (existing : Gateway) : Script SyncError SyncOutcome := do
  let aggregation ← collect target
  if aggregation.isEmpty then remove target existing
  else if sameListeners existing.spec.listeners aggregation.listeners then return .unchanged
  else
    let _ ← Gateways.merge target (listenersPatch existing aggregation.listeners)
    return .patched

/-- Creates a gateway for the settings, if any route has a hostname for it. -/
def create (config : Config) (target : ObjectRef) (settings : GatewaySettings) :
    Script SyncError SyncOutcome := do
  let aggregation ← collect target
  if aggregation.isEmpty then return .absent
  else
    let _ ← Gateways.create
      (Gateway.recording target settings config.gatewayClass aggregation.listeners)
    return .created

/-- Brings a gateway in line for a route that wants the settings. A missing
gateway is created; one that is there is held to its records before anything
is written. -/
def ensure (config : Config) (target : ObjectRef) (settings : GatewaySettings) :
    Script SyncError SyncOutcome := do
  match ← Gateways.get target with
  | none => create config target settings
  | some existing =>
    match existing.check settings with
    | .error violation => .fail (.policy violation)
    | .ok () => syncExisting target existing

/-- Brings a gateway in line after a route has left it. A missing gateway stays
missing. -/
def refresh (target : ObjectRef) : Script SyncError SyncOutcome := do
  match ← Gateways.get target with
  | none => return .absent
  | some existing => syncExisting target existing

end Sync

end SharedGateway
