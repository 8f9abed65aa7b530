/-
The ways through each operation of the operator.

The operations are judged in several manners. One asks how an operation ends, for
each notion of how calls may be answered; others ask which calls it can make, whether
one of them can fail, what is called in what order. What differs between the
judgments is how they treat a call and a sequence. Which calls an operation makes and
what decides between them is the same for all, so it is said here once: each
operation that decides anything has one elimination rule, and no other proof opens
its definition.

# The form of a rule

A rule has one case for each way to go on, with what was found to be so on that way.
Where an operation first reads something and then decides, the rule takes two
predicates. `J` is the judgment on the operation, and `K` judges what comes after the
read, for each thing that can be read; the first hypothesis of the rule leads from
the one to the other, and is the only one that speaks of a sequence. For a judgment
that knows the store, `K` is about what is stored; for one that does not, it is about
any answer.

# Equations

Operations without a decision are given as equations: a deletion and what is made of
its answer (`remove_eq`), refreshes in turn (`refreshAll_cons`), the end of a route
(`finalize_eq`), the service of a route that attaches to a gateway (`attach_eq`). The
ways through an event are told apart by the route alone (`handle_elim`), so they are
given as equations too, for proofs that know which one it is.
-/
import SharedGateway.Reconcile

namespace SharedGateway

/-- An error of the store is an error of the sync. -/
theorem lift_store {α : Type} (s : Script StoreError α) :
    (liftM s : Script SyncError α) = s.mapError .store := rfl

/-- Errors that are renamed twice are renamed once. -/
theorem mapError_mapError {ε ε' ε'' α : Type} (g : ε → ε') (g' : ε' → ε'') (s : Script ε α) :
    (s.mapError g).mapError g' = s.mapError (g' ∘ g) := by
  induction s with
  | done result => cases result <;> rfl
  | call c next ih => exact congrArg (Script.call c) (funext ih)

/-- A store error becomes the event's own by way of the sync's, which changes
nothing. -/
theorem lift_store_event {α : Type} (s : Script StoreError α) :
    (liftM s : Script ReconcileError α) = s.mapError .store :=
  mapError_mapError SyncError.store ReconcileError.ofSync s

-- =============================================================== syncs

namespace Sync

/-- What a sync makes of the answer to its deletion: a gateway that is gone already
is as good. -/
def removed : Except StoreError Unit → Except SyncError SyncOutcome
  | .ok () => .ok .deleted
  | .error cause => if cause.isNotFound then .ok .absent else .error (.store cause)

/-- What a sync makes of the answer to another write. -/
def wrote {α : Type} (outcome : SyncOutcome) : Except StoreError α → Except SyncError SyncOutcome
  | .ok _ => .ok outcome
  | .error cause => .error (.store cause)

variable {J : Script SyncError SyncOutcome → Prop} {target : ObjectRef}

/-- A removal deletes the gateway in the version that was read, and looks at the answer.
-/
theorem remove_eq (target : ObjectRef) (existing : Gateway) :
    remove target existing
      = ((Gateways.delete target existing.resourceVersion).attempt >>= fun reply =>
        .done (removed reply)) := by
  refine congrArg (bind _) (funext fun reply => ?_)
  cases reply with
  | ok done => rfl
  | error cause =>
    dsimp only [removed]
    split <;> rfl

/-- The answer to a deletion is passed on, but for a gateway that is reported missing. -/
@[elab_as_elim]
theorem removed_elim {P : Except SyncError SyncOutcome → Prop} (reply : Except StoreError Unit)
    (deleted : reply = .ok () → P (.ok .deleted))
    (gone : ∀ cause, reply = .error cause → cause.isNotFound = true → P (.ok .absent))
    (failed : ∀ cause, reply = .error cause → cause.isNotFound = false →
      P (.error (.store cause))) :
    P (removed reply) := by
  cases reply with
  | ok done => exact deleted rfl
  | error cause =>
    dsimp only [removed]
    split
    · exact gone cause rfl ‹_›
    · exact failed cause rfl (Bool.eq_false_iff.2 ‹_›)

/-- A gateway as it was read is deleted if nobody wants it, left alone if it has the
listeners that are wanted, and patched if it has others. -/
@[elab_as_elim]
theorem syncExisting_elim (target : ObjectRef) (existing : Gateway)
    {K : Aggregation → Script SyncError SyncOutcome → Prop}
    (collect : ∀ f, (∀ a, K a (f a)) → J (liftM (collect target) >>= f))
    (unwanted : ∀ a : Aggregation, a.isEmpty = true → K a (remove target existing))
    (same : ∀ a : Aggregation, a.isEmpty = false →
      sameListeners existing.spec.listeners a.listeners = true → K a (pure .unchanged))
    (differ : ∀ a : Aggregation, a.isEmpty = false →
      sameListeners existing.spec.listeners a.listeners = false →
      K a (liftM (Gateways.merge target (listenersPatch existing a.listeners)) >>= fun _ =>
        pure .patched)) :
    J (syncExisting target existing) := by
  refine collect _ fun a => ?_
  split
  · exact unwanted a ‹_›
  · rename_i wanted
    split
    · exact same a (Bool.eq_false_iff.2 wanted) ‹_›
    · exact differ a (Bool.eq_false_iff.2 wanted) (Bool.eq_false_iff.2 ‹_›)

/-- A missing gateway is created unless nobody wants it. -/
@[elab_as_elim]
theorem create_elim (config : Config) (target : ObjectRef) (settings : GatewaySettings)
    {K : Aggregation → Script SyncError SyncOutcome → Prop}
    (collect : ∀ f, (∀ a, K a (f a)) → J (liftM (collect target) >>= f))
    (unwanted : ∀ a : Aggregation, a.isEmpty = true → K a (pure .absent))
    (wanted : ∀ a : Aggregation, a.isEmpty = false →
      K a (liftM (Gateways.create
        (Gateway.recording target settings config.gatewayClass a.listeners)) >>= fun _ =>
          pure .created)) :
    J (create config target settings) := by
  refine collect _ fun a => ?_
  split
  · exact unwanted a ‹_›
  · exact wanted a (Bool.eq_false_iff.2 ‹_›)

/-- A refresh leaves a missing gateway missing and syncs one that is there. -/
@[elab_as_elim]
theorem refresh_elim (target : ObjectRef)
    {K : Option Gateway → Script SyncError SyncOutcome → Prop}
    (read : ∀ f, (∀ found, K found (f found)) → J (liftM (Gateways.get target) >>= f))
    (missing : K none (pure .absent))
    (found : ∀ existing, K (some existing) (syncExisting target existing)) :
    J (refresh target) := by
  refine read _ fun answer => ?_
  cases answer with
  | none => exact missing
  | some existing => exact found existing

/-- Ensuring creates a missing gateway, and syncs one that is there if its records
allow it. -/
@[elab_as_elim]
theorem ensure_elim (config : Config) (target : ObjectRef) (settings : GatewaySettings)
    {K : Option Gateway → Script SyncError SyncOutcome → Prop}
    (read : ∀ f, (∀ found, K found (f found)) → J (liftM (Gateways.get target) >>= f))
    (missing : K none (create config target settings))
    (refused : ∀ existing violation, existing.check settings = .error violation →
      K (some existing) (.fail (.policy violation)))
    (agreed : ∀ existing, existing.check settings = .ok () →
      K (some existing) (syncExisting target existing)) :
    J (ensure config target settings) := by
  refine read _ fun answer => ?_
  cases answer with
  | none => exact missing
  | some existing =>
    dsimp only
    cases checked : existing.check settings with
    | error violation => exact refused existing violation checked
    | ok done => exact agreed existing checked

end Sync

-- ========================================================== finalizers

namespace Reconcile

section Attempts

variable {J : Script StoreError Unit → Prop} {K : Option Route → Script StoreError Unit → Prop}

/-- An attempt at holding a route reports a missing one, leaves one alone that is held
already, and patches any other. -/
@[elab_as_elim]
theorem addFinalizerOnce_elim (key : ObjectRef)
    (read : ∀ f, (∀ found, K found (f found)) → J (Routes.get key >>= f))
    (missing : K none (.fail (.notFound Kind.httpRoute.toText key.toText)))
    (held : ∀ route, route.isManaged = true → K (some route) (pure ()))
    (unheld : ∀ route, route.isManaged = false →
      K (some route) (Routes.merge key (finalizersPatch route (route.finalizers ++ [finalizer]))
        >>= fun _ => pure ())) :
    J (addFinalizerOnce key) := by
  refine read _ fun answer => ?_
  cases answer with
  | none => exact missing
  | some route =>
    dsimp only
    split
    · exact held route ‹_›
    · exact unheld route (Bool.eq_false_iff.2 ‹_›)

/-- What becomes of a route whose finalizer was patched away: one that is gone is as
good. -/
def letGo : Except StoreError Route → Except StoreError Unit
  | .ok _ => .ok ()
  | .error cause => if cause.isNotFound then .ok () else .error cause

/-- An attempt at letting a route go leaves one alone that is not held, or not there,
and patches any other. -/
@[elab_as_elim]
theorem removeFinalizerOnce_elim (key : ObjectRef)
    (read : ∀ f, (∀ found, K found (f found)) → J (Routes.get key >>= f))
    (missing : K none (pure ()))
    (unheld : ∀ route, route.isManaged = false → K (some route) (pure ()))
    (held : ∀ route, route.isManaged = true → K (some route)
      ((Routes.merge key (finalizersPatch route (released route.finalizers))).attempt
        >>= fun reply => .done (letGo reply))) :
    J (removeFinalizerOnce key) := by
  refine read _ fun answer => ?_
  cases answer with
  | none => exact missing
  | some route =>
    dsimp only
    cases managed : route.isManaged with
    | false => exact unheld route managed
    | true =>
      -- what is made of the answer is a function of it
      have passed : ∀ reply : Except StoreError Route,
          (match reply with
            | .ok _ => pure ()
            | .error cause => if cause.isNotFound then pure () else .fail cause :
            Script StoreError Unit) = .done (letGo reply) := by
        intro reply
        cases reply with
        | ok written => rfl
        | error cause =>
          dsimp only [letGo]
          split <;> rfl
      have written := held route managed
      rw [← funext passed] at written
      exact written

end Attempts

/-- Gateways are refreshed in their order, until one refresh fails. -/
theorem refreshAll_cons (target : ObjectRef) (rest : List ObjectRef) :
    refreshAll (target :: rest) = (Sync.refresh target >>= fun _ => refreshAll rest) := rfl

/-- A route's gateways are refreshed before its finalizer goes. -/
theorem finalize_eq (config : Config) (key : ObjectRef) (route : Route) :
    finalize config key route
      = ((refreshAll (formerGateways route)).mapError .ofSync >>= fun _ =>
        updating config (removeFinalizerOnce key) >>= fun _ => pure .finalized) := rfl

-- =========================================================== attachment

variable {config : Config} {key current : ObjectRef} {route : Route}

/-- A route that has moved has its former gateway refreshed, well or not. -/
@[elab_as_elim]
theorem leavePrevious_elim {J : Script ReconcileError Unit → Prop} (route : Route)
    (current : ObjectRef)
    (stays : leftGateway? route current = none → J (pure ()))
    (leaves : ∀ previous, leftGateway? route current = some previous →
      J ((Sync.refresh previous).attempt >>= fun _ => pure ())) :
    J (leavePrevious route current) := by
  unfold leavePrevious
  cases left : leftGateway? route current with
  | none => exact stays left
  | some previous => exact leaves previous left

/-- A route that has not moved leaves nothing. -/
theorem leavePrevious_of_stays (stays : leftGateway? route current = none) :
    leavePrevious route current = pure () := by
  rw [leavePrevious, stays]

/-- A route that has moved has its former gateway refreshed, whatever comes of it. -/
theorem leavePrevious_of_leaves {previous : ObjectRef}
    (leaves : leftGateway? route current = some previous) :
    leavePrevious route current
      = ((Sync.refresh previous).attempt >>= fun _ => pure ()) := by
  rw [leavePrevious, leaves]

/-- The bookkeeping is written unless it is right already. -/
@[elab_as_elim]
theorem record_elim {J : Script ReconcileError Unit → Prop} (config : Config) (key : ObjectRef)
    (route : Route) (current : ObjectRef)
    (recorded : isRecorded route current = true → J (pure ()))
    (unrecorded : isRecorded route current = false →
      J (liftM (Routes.apply key (bookkeeping key current) config.fieldManager) >>= fun _ =>
        pure ())) :
    J (record config key route current) := by
  unfold record
  split
  · exact recorded ‹_›
  · exact unrecorded (Bool.eq_false_iff.2 ‹_›)

/-- What is done for a route once it has left its former gateway: it is held, or
recorded and served. -/
def serve (config : Config) (key : ObjectRef) (route : Route) (current : ObjectRef) :
    Script ReconcileError Outcome :=
  if !route.isManaged then do
    updating config (addFinalizerOnce key)
    return .finalizerAdded
  else do
    record config key route current
    let outcome ← Sync.ensure config current (route.settings.effective config)
    return .synced outcome

/-- A route is held first, and served when it comes back. -/
@[elab_as_elim]
theorem serve_elim {J : Script ReconcileError Outcome → Prop} (config : Config) (key : ObjectRef)
    (route : Route) (current : ObjectRef)
    (unmanaged : route.isManaged = false →
      J (updating config (addFinalizerOnce key) >>= fun _ => pure .finalizerAdded))
    (managed : route.isManaged = true →
      J (record config key route current >>= fun _ =>
        (Sync.ensure config current (route.settings.effective config)).mapError .ofSync
          >>= fun outcome => pure (.synced outcome))) :
    J (serve config key route current) := by
  unfold serve
  cases held : route.isManaged with
  | false => exact unmanaged held
  | true => exact managed held

end Reconcile

/-- A route leaves its former gateway before it is served by the new one. -/
theorem attach_eq (config : Config) (key : ObjectRef) (route : Route) (current : ObjectRef) :
    Reconcile.attach config key route current
      = (Reconcile.leavePrevious route current >>= fun _ =>
        Reconcile.serve config key route current) := rfl

-- =========================================================== the event

section Event

variable (config : Config) (key : ObjectRef) {route : Route}

/-- There are five ways through an event of a route, and the route decides. -/
@[elab_as_elim]
theorem Reconcile.handle_elim {J : Script ReconcileError Outcome → Prop} (route : Route)
    (finalizing : route.isDeleting = true → route.isManaged = true →
      J (finalize config key route))
    (disabled : (route.isDeleting && route.isManaged) = false →
      route.settings.enabled = false → J (pure .disabled))
    (released : route.isDeleting = true → route.isManaged = false →
      route.settings.enabled = true → J (pure .finalized))
    (unattached : route.isDeleting = false → route.settings.enabled = true →
      route.parent? = none → J (pure .noParentRef))
    (attached : ∀ current, route.isDeleting = false → route.settings.enabled = true →
      route.parent? = some current → J (attach config key route current)) :
    J (handle config key route) := by
  unfold handle
  -- the check for finalizing comes first, whatever the annotations hold
  cases enabled : route.settings.enabled with
  | false =>
    split
    · obtain ⟨deleting, managed⟩ := Bool.and_eq_true_iff.1 ‹_›
      exact finalizing deleting managed
    · exact disabled (Bool.eq_false_iff.2 ‹_›) enabled
  | true =>
    cases deleting : route.isDeleting with
    | true =>
      cases managed : route.isManaged with
      | true => exact finalizing deleting managed
      | false => exact released deleting managed enabled
    | false =>
      cases parent : route.parent? with
      | none => exact unattached deleting enabled parent
      | some current => exact attached current deleting enabled parent

/-- A held route that is deleted is finalized. -/
theorem handle_of_finalizing (deleting : route.isDeleting = true)
    (managed : route.isManaged = true) :
    Reconcile.handle config key route = Reconcile.finalize config key route := by
  unfold Reconcile.handle
  rw [deleting, managed]
  rfl

/-- A route without a parent is left alone. -/
theorem handle_of_unattached (live : route.isDeleting = false)
    (enabled : route.settings.enabled = true) (parent : route.parent? = none) :
    Reconcile.handle config key route = pure .noParentRef := by
  unfold Reconcile.handle
  rw [live, enabled, parent]
  rfl

/-- A live route with a parent attaches to it. -/
theorem handle_of_attached (live : route.isDeleting = false)
    (enabled : route.settings.enabled = true) {current : ObjectRef}
    (parent : route.parent? = some current) :
    Reconcile.handle config key route = Reconcile.attach config key route current := by
  unfold Reconcile.handle
  rw [live, enabled, parent]
  rfl

end Event

end SharedGateway
