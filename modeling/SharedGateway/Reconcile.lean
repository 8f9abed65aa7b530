/-
One event of a route, from reading the route to the end. A route that is being
deleted lets go of every gateway it used before it is released. One that is
disabled or attaches to nothing is left alone. Any other route gets, in this
order: its former gateway refreshed if it has moved, the operator's finalizer,
the bookkeeping annotations, and at last its gateway. The order matters: what a
later event needs in order to clean up is written before the gateway is touched.
-/
import SharedGateway.Sync

namespace SharedGateway

/-- Why an event came to nothing. -/
inductive ReconcileError where
  | store (cause : StoreError)
  | policy (violation : PolicyViolation)
  /-- The route could not be updated: every attempt met a conflict. -/
  | retriesExhausted (attempts : Nat) (cause : StoreError)
  /-- The event does not name its route. -/
  | missingField (field : String)
  deriving DecidableEq, Repr

namespace ReconcileError

/-- A failed sync as a failed event. -/
def ofSync : SyncError → ReconcileError
  | .store cause => .store cause
  | .policy violation => .policy violation

/-- Failed attempts at updating a route as a failed event. -/
def ofRetry : RetryError → ReconcileError
  | .exhausted attempts cause => .retriesExhausted attempts cause
  | .store cause => .store cause

/-- The message, for the errors that have one of their own. -/
def message? : ReconcileError → Option String
  | .store cause => cause.message?
  | .policy violation => some violation.message
  | .retriesExhausted attempts cause =>
    cause.message?.map fun message =>
      "Gave up updating route after " ++ toString attempts ++ " conflicting attempts: " ++ message
  | .missingField field => some ("Missing required field: " ++ field)

end ReconcileError

instance : MonadLift (Script StoreError) (Script ReconcileError) where
  monadLift := Script.mapError .store

instance : MonadLift (Script SyncError) (Script ReconcileError) where
  monadLift := Script.mapError .ofSync

/-- How an event ended. -/
inductive Outcome where
  /-- There is no such route. -/
  | notFound
  | disabled
  | noParentRef
  /-- The route is deleting and the operator holds it no more. -/
  | finalized
  /-- The finalizer was added; the change brings the route back. -/
  | finalizerAdded
  | synced (outcome : SyncOutcome)
  deriving DecidableEq, Repr

namespace Reconcile

-- =========================================================== finalizers

/-- The patch that replaces the finalizers of a route as it was read. -/
def finalizersPatch (route : Route) (finalizers : List String) : Json :=
  Json.object [
    ("metadata", some (Json.object [
      ("finalizers", some (Json.strings finalizers)),
      ("resourceVersion", some (Json.orNull (route.resourceVersion.map .str)))]))]

/-- The finalizers without the operator's own. -/
def released (finalizers : List String) : List String :=
  finalizers.filter (· ≠ finalizer)

/-- One attempt at adding the finalizer: read, append, write. -/
def addFinalizerOnce (key : ObjectRef) : Script StoreError Unit := do
  match ← Routes.get key with
  | none => .fail (.notFound Kind.httpRoute.toText key.toText)
  | some route =>
    if route.isManaged then return ()
    else
      let _ ← Routes.merge key (finalizersPatch route (route.finalizers ++ [finalizer]))
      return ()

/-- One attempt at removing the finalizer. A route that is gone is as good. -/
def removeFinalizerOnce (key : ObjectRef) : Script StoreError Unit := do
  match ← Routes.get key with
  | none => return ()
  | some route =>
    if !route.isManaged then return ()
    else
      let write := Routes.merge key (finalizersPatch route (released route.finalizers))
      match ← write.attempt with
      | .ok _ => return ()
      | .error cause => if cause.isNotFound then return () else .fail cause

/-- Attempts at updating a route, as often as the configuration allows. The
pauses between them are not seen by any store. -/
def updating (config : Config) (act : Script StoreError Unit) : Script ReconcileError Unit := do
  match ← retryOnConflict config.conflictRetry (fun _ => pure ()) act.attempt with
  | .ok () => return ()
  | .error e => .fail (.ofRetry e)

/-- No store sees the pauses, so they can be left out. -/
theorem updating_eq (config : Config) (act : Script StoreError Unit) :
    updating config act
      = retryFrom (pure ()) act.attempt 1 (config.conflictRetry.attempts - 1) >>= fun result =>
        match result with
        | .ok () => pure ()
        | .error e => .fail (.ofRetry e) := by
  have wait : (if config.conflictRetry.pause = 0 then return () else return () :
      Script ReconcileError Unit) = pure () := by
    split <;> rfl
  unfold updating retryOnConflict
  rw [wait]

-- ============================================================= deletion

/-- The gateways that a route may have left listeners on: the one that its
bookkeeping names and the one that it attaches to, each once. -/
def formerGateways (route : Route) : List ObjectRef :=
  let previous := route.settings.previous?.toList
  match route.parent? with
  | none => previous
  | some current => if previous.contains current then previous else previous ++ [current]

/-- Refreshes the gateways one after the other. -/
def refreshAll : List ObjectRef → Script SyncError Unit
  | [] => pure ()
  | target :: rest => do
    let _ ← Sync.refresh target
    refreshAll rest

/-- Lets a deleting route go: first every gateway that it used is refreshed,
then the finalizer is removed. -/
def finalize (config : Config) (key : ObjectRef) (route : Route) :
    Script ReconcileError Outcome := do
  refreshAll (formerGateways route)
  updating config (removeFinalizerOnce key)
  return .finalized

-- =========================================================== attachment

/-- The gateway that the bookkeeping names, if the route has moved away from
it. -/
def leftGateway? (route : Route) (current : ObjectRef) : Option ObjectRef :=
  if route.settings.previousGateway = some current.toText then none
  else route.settings.previous?

/-- Refreshes the gateway that the route has left, if any; a failure to do so
does not stop the event. -/
def leavePrevious (route : Route) (current : ObjectRef) : Script ReconcileError Unit := do
  match leftGateway? route current with
  | none => return ()
  | some previous =>
    let _ ← (Sync.refresh previous).attempt
    return ()

/-- Does the bookkeeping already name the gateway? -/
def isRecorded (route : Route) (current : ObjectRef) : Bool :=
  route.settings.reconciled && route.settings.previousGateway = some current.toText

/-- The value that is applied to a route to record its gateway. -/
def bookkeeping (key current : ObjectRef) : Json :=
  Json.object [
    ("apiVersion", some (.str apiVersion)),
    ("kind", some (.str Kind.httpRoute.toText)),
    ("metadata", some (Json.object [
      ("annotations", some (Json.object [
        (AnnotationKey.reconciled, some (.str "true")),
        (AnnotationKey.previousGateway, some (.str current.toText))])),
      ("name", some (.str key.name)),
      ("namespace", some (.str key.ns))]))]

/-- Records the gateway in the route's bookkeeping, unless it is there. -/
def record (config : Config) (key : ObjectRef) (route : Route) (current : ObjectRef) :
    Script ReconcileError Unit := do
  if isRecorded route current then return ()
  else
    let _ ← Routes.apply key (bookkeeping key current) config.fieldManager
    return ()

/-- Serves a route that attaches to a gateway. -/
def attach (config : Config) (key : ObjectRef) (route : Route) (current : ObjectRef) :
    Script ReconcileError Outcome := do
  leavePrevious route current
  if !route.isManaged then
    updating config (addFinalizerOnce key)
    return .finalizerAdded
  else
    record config key route current
    let outcome ← Sync.ensure config current (route.settings.effective config)
    return .synced outcome

-- ================================================================ event

/-- What an event does with the route that it found. -/
def handle (config : Config) (key : ObjectRef) (route : Route) :
    Script ReconcileError Outcome :=
  if route.isDeleting && route.isManaged then finalize config key route
  else if !route.settings.enabled then pure .disabled
  else if route.isDeleting then pure .finalized
  else
    match route.parent? with
    | none => pure .noParentRef
    | some current => attach config key route current

end Reconcile

/-- One event of the route under the key. -/
def reconcile (config : Config) (key : ObjectRef) : Script ReconcileError Outcome := do
  match ← Routes.get key with
  | none => return .notFound
  | some route => Reconcile.handle config key route

/-- An event starts with one call, and its answer decides how it goes on. -/
theorem reconcile_eq (config : Config) (key : ObjectRef) :
    reconcile config key = .call (.routes (.get key)) fun reply =>
      match reply with
      | .ok none => .done (.ok .notFound)
      | .ok (some route) => Reconcile.handle config key route
      | .error e => .done (.error (.store e)) := by
  refine congrArg (Script.call (.routes (.get key))) (funext fun reply => ?_)
  rcases reply with e | _ | route <;> rfl

end SharedGateway
