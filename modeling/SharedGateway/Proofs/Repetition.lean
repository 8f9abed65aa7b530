/-
An event that comes twice.

# One gateway

A task that is done twice is done once (`Task.make_make`): what a sync has made of a
gateway, up to its version, is what it makes of it again. To write nothing is more
than that. A sync writes nothing where the gateway has the listeners that are wanted,
and where nobody wants it and it waits for others to let go of it: it is deleted
again, and deleting an object that is marked already does not even give it a new
version (`Store.delete_marked`). These are the only gateways that a sync makes into
themselves (`Object.still_cases`).

# At rest

When an event has ended, its route and its gateway are as the event would have them:
the bookkeeping names the gateway, and ensuring the gateway once more makes of it
what it is (`Cluster.AtRest`); or the event has nothing to do for its route at all.
An event that meets its route at rest writes nothing (`ends_reconcile_atRest`), so
the second one leaves the cluster to the last version and the last counter as it
found it (`repeated_event_changes_nothing`).

The one event that does not end at rest is the one that adds the finalizer: it hands
the rest over to the next, and the route is held from then on, so no event does it
again.

# Echoes

How the second event ends follows from how the first one did (`Cluster.Echoes`). Most
outcomes are repeated; what was created or patched is unchanged the second time; what
was deleted is absent, unless others hold it; a route that was let go is not found,
unless others hold it, and then it is passed over.
-/
import SharedGateway.Proofs.Commutation

namespace SharedGateway

open Cluster (performs Attended)
open Script

variable {config : Config} {w : Cluster} {key target : ObjectRef} {want : List Listener}
  {settings : GatewaySettings}

-- ============================================================ one gateway

/-- A task that is done twice is done once. -/
theorem Task.make_make (task : Task) {gateway : Option Gateway}
    (held : ∀ g, gateway = some g → g.metadata.isReleased = false) :
    task.make config target want (task.make config target want gateway)
      = task.make config target want gateway := by
  cases gateway with
  | none =>
    cases task with
    | leave => rfl
    | refresh => rfl
    | ensure settings =>
      by_cases unwanted : want.isEmpty = true
      · rw [make_missing _ unwanted, make_missing _ unwanted]
      · have made : (Task.ensure settings).make config target want none
            = some (Gateway.recording target settings config.gatewayClass want) := by
          rw [make, Sync.ensured, if_neg unwanted]
        rw [made]
        exact make_of_synced (Object.synced_of_listed unwanted rfl)
  | some g =>
    rcases @make_some config target want task g with same | synced
    · rw [same, same]
    · rw [synced]
      cases left : g.synced want with
      | none => exact make_missing _ (unwanted_of_synced (held g rfl) left)
      | some made => exact make_of_synced (Object.synced_of_synced (held g rfl) left)

/-- A gateway that a sync makes into itself has the listeners that are wanted, or
is wanted by nobody and waits for others to let go of it. -/
theorem Object.still_cases {gateway : Gateway} (still : gateway.synced want = some gateway) :
    (want.isEmpty = true ∧ gateway.finalizers.isEmpty = false ∧ gateway.isDeleting = true)
      ∨ (want.isEmpty = false ∧ Sync.sameListeners gateway.spec.listeners want = true) := by
  unfold Object.synced at still
  split at still
  · rename_i unwanted
    unfold Store.deleted at still
    split at still
    · cases still
    · rename_i claimed
      refine .inl ⟨unwanted, Bool.eq_false_iff.2 claimed, ?_⟩
      split at still
      · rename_i deleting
        exact deleting
      -- marked now and the same as before, so marked before
      · have marked := congrArg Object.isDeleting (Option.some.inj still)
        exact marked.symm
  · rename_i wanted
    refine .inr ⟨Bool.eq_false_iff.2 wanted, ?_⟩
    split at still
    · rename_i same
      exact same
    · have listed := congrArg (fun g : Gateway => g.spec.listeners) (Store.kept_eq_some still)
      have listed : gateway.spec.listeners = want := listed
      rw [listed]
      exact sameListeners_refl want

/-- Deleting an object that is marked already, and held, changes nothing. -/
theorem Store.delete_marked {σ : Type} [Spec σ] {s : Store σ} {o : Object σ}
    (found : s.get key = some o) (claimed : o.finalizers.isEmpty = false)
    (deleting : o.isDeleting = true) : s.delete key o.resourceVersion = (.ok (), s) := by
  simp [Store.delete, found, Store.hasVersion_own o, claimed, deleting]

/-- A gateway that a sync makes into itself is not written. -/
theorem ends_syncExisting_still {existing : Gateway}
    (found : w.gateways.get target = some existing)
    (still : existing.unversioned.synced (w.wanted target) = some existing.unversioned) :
    (Sync.syncExisting target existing).Ends performs w fun _ after => after = w := by
  have still := Object.still_cases still
  refine ends_syncExisting_of nofun (fun unwanted => ?unwanted) (fun _ _ => rfl)
    fun wanted differ => ?differ
  case unwanted =>
    obtain ⟨-, claimed, deleting⟩ | ⟨wanted, -⟩ := still
    · have performed : w.perform (.gateways (.delete target existing.resourceVersion))
          = (.ok (), w) := by
        show ((w.gateways.delete target _).1,
          { w with gateways := (w.gateways.delete target _).2 }) = _
        rw [Store.delete_marked found claimed deleting]
      rw [ends_request_performs, performed]
    · exact absurd unwanted (List.isEmpty_eq_false_iff.1 wanted)
  case differ =>
    obtain ⟨unwanted, -⟩ | ⟨-, same⟩ := still
    · exact absurd (List.isEmpty_iff.1 unwanted) wanted
    · exact absurd (Cluster.sameListeners_wanted_iff.1 same) differ

/-- Ensuring the gateway makes of it what it is. -/
def Cluster.Ensured (config : Config) (w : Cluster) (target : ObjectRef)
    (settings : GatewaySettings) : Prop :=
  Sync.ensured config target settings (w.wanted target) (w.gateways.view target)
    = w.gateways.view target

/-- A gateway that ensuring makes into itself is not written. -/
theorem ends_ensure_still (still : w.Ensured config target settings) :
    (Sync.ensure config target settings).Ends performs w fun _ after => after = w := by
  unfold Cluster.Ensured at still
  rw [Store.view] at still
  refine ends_ensure_of (fun _ _ => rfl) (fun missing => ?_) (fun _ _ _ _ => rfl)
    fun existing found agrees => ?_
  · rw [missing, Option.map_none, Sync.ensured] at still
    refine ends_create_of (fun _ _ => rfl) (fun _ => rfl) fun wanted => ?_
    rw [if_neg (mt List.isEmpty_iff.1 wanted)] at still
    cases still
  · rw [found, Option.map_some, Sync.ensured, Object.check_unversioned, if_pos agrees] at still
    exact ends_syncExisting_still found still

-- ================================================================ routes

namespace Object

variable {route route' left : Route} {current : ObjectRef}

/-- The event of the route does nothing. -/
structure IsIdle (route : Route) : Prop where
  unfinalizing : (route.isDeleting && route.isManaged) = false
  idle : (!route.settings.enabled || route.isDeleting) = true ∨ route.parent? = none

/-- The event of the route sees to its gateway. -/
structure Attends (route : Route) (current : ObjectRef) : Prop where
  live : route.isDeleting = false
  enabled : route.settings.enabled = true
  parent : route.parent? = some current

/-- A route that is not being let go is passed over, or its gateway is seen to. -/
theorem idle_or_attends (unfinalizing : (route.isDeleting && route.isManaged) = false) :
    route.IsIdle ∨ ∃ current, route.Attends current := by
  by_cases idle : (!route.settings.enabled || route.isDeleting) = true
  · exact .inl ⟨unfinalizing, .inl idle⟩
  · cases parent : route.parent? with
    | none => exact .inl ⟨unfinalizing, .inr parent⟩
    | some current =>
      simp only [Bool.or_eq_true, Bool.not_eq_true', not_or, Bool.not_eq_false,
        Bool.not_eq_true] at idle
      exact .inr ⟨current, idle.2, idle.1, parent⟩

/-- What does not look at the version is the same for two routes that differ in
their version only. -/
theorem congr_unversioned {β : Type} (f : Route → β) (blind : ∀ r, f r.unversioned = f r)
    (same : route'.unversioned = route.unversioned) : f route' = f route := by
  rw [← blind route', same, blind route]

/-- A route goes on in every version. -/
theorem Continues.of_unversioned (same : route'.unversioned = route.unversioned) :
    route.Continues route' where
  spec := congr_unversioned Object.spec (fun _ => rfl) same
  ref := congr_unversioned Object.ref (fun _ => rfl) same
  parent := congr_unversioned parent? (fun _ => rfl) same
  isDeleting := congr_unversioned Object.isDeleting (fun _ => rfl) same
  enabled := congr_unversioned (·.settings.enabled) (fun _ => rfl) same
  issuer := congr_unversioned (·.settings.issuer) (fun _ => rfl) same
  zone := congr_unversioned (·.settings.zone) (fun _ => rfl) same

/-- A route that is passed over is passed over in every version. -/
theorem IsIdle.of_unversioned (h : route.IsIdle)
    (same : route'.unversioned = route.unversioned) : route'.IsIdle := by
  have deleting := congr_unversioned isDeleting (fun _ => rfl) same
  have managed := congr_unversioned isManaged (fun _ => rfl) same
  have settings := congr_unversioned settings (fun _ => rfl) same
  have parent := congr_unversioned parent? (fun _ => rfl) same
  constructor
  · rw [deleting, managed]
    exact h.unfinalizing
  · rw [settings, deleting, parent]
    exact h.idle

/-- A route that goes on as the same sees to the same gateway. -/
theorem Attends.of_continues (h : route.Attends current) (continues : route.Continues left) :
    left.Attends current where
  live := continues.isDeleting.trans h.live
  enabled := continues.enabled.trans h.enabled
  parent := continues.parent.trans h.parent

/-- Bookkeeping that was written is right. -/
theorem isRecorded_recorded (filed : route.ref = key) (current : ObjectRef) :
    Reconcile.isRecorded (route.recorded key current) current = true := by
  have named := (continues_recorded filed current).2
  have table : (route.recorded key current).metadata.annotations.getD .empty
      = recordedIn (route.metadata.annotations.getD .empty) current := rfl
  have processed : (route.recorded key current).settings.reconciled = true := by
    simp only [Object.settings, RouteSettings.ofAnnotations, table, recordedIn, Table.contains,
      Table.find?_insert]
    split <;> rfl
  rw [Reconcile.isRecorded, processed, named]
  simp

/-- The operator's own finalizers are all removed. -/
theorem isManaged_released (version : Option String) :
    (route.refinalized (Reconcile.released route.finalizers) version).isManaged = false := by
  simp [isManaged, refinalized, Object.finalizers, Metadata.finalizerList, Reconcile.released]

/-- A route that has been let go and is still there is passed over. -/
theorem isIdle_of_finalizing (finalizing : (route.isDeleting && route.isManaged) = true)
    (after : route.aftermath key = some left) : left.IsIdle := by
  rw [aftermath, if_pos finalizing] at after
  cases Store.kept_eq_some after
  have deleting := (Bool.and_eq_true_iff.1 finalizing).1
  constructor
  · rw [isManaged_released, Bool.and_false]
  · refine .inl (Bool.or_eq_true_iff.2 (.inr ?_))
    exact deleting

/-- A route that is passed over is left as it is. -/
theorem aftermath_of_isIdle (isIdle : route.IsIdle) :
    route.aftermath key = some route := by
  rw [aftermath, isIdle.unfinalizing, if_neg (by decide)]
  rcases isIdle.idle with idle | detached
  · rw [if_pos idle]
  · rw [detached, ite_self]

theorem aftermath_of_attends (attends : route.Attends current) :
    route.aftermath key = route.served key current := by
  rw [aftermath, attends.live, attends.enabled, attends.parent]
  rfl

/-- A route that is served stays, and is as serving it would leave it. -/
theorem served_of_managed (filed : route.ref = key) (attends : route.Attends current)
    (managed : route.isManaged = true) :
    ∃ left, route.served key current = some left ∧ route.Continues left
      ∧ left.isManaged = true ∧ Reconcile.isRecorded left current = true := by
  rw [Object.served, managed]
  simp only [Bool.not_true, Bool.false_eq_true, if_false]
  split
  · rename_i recorded
    exact ⟨route, rfl, .refl route, managed, recorded⟩
  · have continues := (continues_recorded filed current).1
    have live : (route.recorded key current).metadata.isDeleting = false :=
      continues.isDeleting.trans attends.live
    have stays : (route.recorded key current).metadata.isReleased = false := by
      rw [Metadata.isReleased, live, Bool.false_and]
    rw [Store.kept, stays]
    exact ⟨_, rfl, continues, managed, isRecorded_recorded filed current⟩

end Object

-- =============================================================== at rest

/-- The event of the route has nothing to write. -/
inductive Cluster.AtRest (config : Config) (w : Cluster) (route : Route) : Prop
  | idle (isIdle : route.IsIdle)
  | served (current : ObjectRef) (attends : route.Attends current)
    (managed : route.isManaged = true)
    (recorded : Reconcile.isRecorded route current = true)
    (ensured : w.Ensured config current (route.settings.effective config))

theorem handle_of_isIdle (config : Config) (key : ObjectRef) {route : Route}
    (isIdle : route.IsIdle) :
    ∃ outcome, Reconcile.handle config key route = pure outcome := by
  refine Reconcile.handle_elim config key route (J := fun s => ∃ outcome, s = pure outcome)
    (fun deleting managed => ?_) (fun _ _ => ⟨_, rfl⟩) (fun _ _ _ => ⟨_, rfl⟩)
    (fun _ _ _ => ⟨_, rfl⟩) fun current live enabled parent => ?_
  · have unfinalizing := isIdle.unfinalizing
    rw [deleting, managed] at unfinalizing
    cases unfinalizing
  · obtain idle | detached := isIdle.idle
    · rw [live, enabled] at idle
      cases idle
    · cases detached.symm.trans parent

/-- An event that meets its route at rest writes nothing. -/
theorem ends_reconcile_atRest
    (atRest : ∀ route, w.routes.get key = some route → w.AtRest config route) :
    (reconcile config key).Ends performs w fun _ after => after = w := by
  refine ends_reconcile_of_handle (fun _ => rfl) (fun route found => ?_) nofun
  cases atRest route found with
  | idle isIdle =>
    obtain ⟨outcome, idle⟩ := handle_of_isIdle config key isIdle
    rw [idle]
    exact rfl
  | served current attends managed recorded ensured =>
    have named : route.settings.previousGateway = some current.toText :=
      of_decide_eq_true (Bool.and_eq_true_iff.1 recorded).2
    -- nothing is left, for the bookkeeping names the present gateway
    have stays : Reconcile.leftGateway? route current = none := if_pos named
    rw [handle_of_attached config key attends.live attends.enabled attends.parent, attach_eq,
      Reconcile.leavePrevious_of_stays stays, Script.pure_bind]
    refine Reconcile.serve_elim config key route current
      (fun unmanaged => nomatch managed.symm.trans unmanaged) fun _ => ?_
    have kept : (Reconcile.record config key route current).Ends performs w
        fun _ after => after = w :=
      ends_record_of (fun _ => rfl) fun unrecorded => nomatch recorded.symm.trans unrecorded
    refine kept.bind (fun _ mid same => ?_) fun _ _ same => same
    rw [same, ends_bind, ends_mapError]
    refine (ends_ensure_still ensured).mono fun result after same => ?_
    cases result with
    | ok outcome => exact same
    | error e => exact same

-- ============================================================== outcomes

section Gateway

variable {gateway made : Gateway}

/-- What is synced again is reported to be in line, or to go away. -/
theorem Object.syncOutcome_of_still (still : gateway.synced want = some gateway) :
    gateway.syncOutcome want = if want.isEmpty then .deleted else .unchanged := by
  rcases Object.still_cases still with ⟨unwanted, -, -⟩ | ⟨wanted, same⟩
  · rw [syncOutcome, if_pos unwanted, if_pos unwanted]
  · rw [syncOutcome, wanted, same]
    rfl

/-- A sync leaves the records of a gateway alone. -/
theorem Object.check_of_synced (synced : gateway.synced want = some made)
    (settings : GatewaySettings) : made.check settings = gateway.check settings := by
  unfold Object.synced at synced
  split at synced
  · unfold Store.deleted at synced
    split at synced
    · cases synced
    · split at synced
      · cases synced
        rfl
      · cases synced
        exact Object.check_congr settings rfl rfl
  · split at synced
    · cases synced
      rfl
    · cases Store.kept_eq_some synced
      exact Object.check_congr settings rfl rfl

end Gateway

/-- What ensuring reports that repeats another, of which it finds the gateway. -/
inductive Sync.Repeats (made : Option Gateway) :
    Except SyncError SyncOutcome → Except SyncError SyncOutcome → Prop
  | rejected (violation : PolicyViolation) :
    Repeats made (.error (.policy violation)) (.error (.policy violation))
  | absent : Repeats made (.ok .absent) (.ok .absent)
  | kept (outcome : SyncOutcome)
    (isKept : outcome = .created ∨ outcome = .patched ∨ outcome = .unchanged) :
    Repeats made (.ok outcome) (.ok .unchanged)
  | gone (missing : made = none) : Repeats made (.ok .deleted) (.ok .absent)
  | claimed (gateway : Gateway) (there : made = some gateway)
    (deleting : gateway.isDeleting = true) (claimed : gateway.finalizers ≠ []) :
    Repeats made (.ok .deleted) (.ok .deleted)

/-- A gateway that was made lists what is wanted and agrees with its settings, so it is
kept. -/
theorem Sync.repeats_created (config : Config) (target : ObjectRef) {want : List Listener}
    (wanted : ¬ want.isEmpty = true) (settings : GatewaySettings) :
    Repeats (ensured config target settings want none) (.ok .created)
      (ensureResult settings want (ensured config target settings want none)) := by
  let recording := Gateway.recording target settings config.gatewayClass want
  have recorded : ensured config target settings want none = some recording := if_neg wanted
  have agrees : recording.check settings = .ok () :=
    Gateway.check_recording target settings config.gatewayClass want ""
  have again := Object.syncOutcome_of_still (Object.synced_of_listed wanted
    (show recording.spec.listeners = want from rfl))
  rw [if_neg wanted] at again
  rw [recorded]
  simp only [ensureResult, agrees, again]
  exact .kept _ (.inl rfl)

/-- A gateway that agrees with the settings agrees with them after its sync, which would
make nothing more of it. -/
theorem Sync.repeats_synced {gateway : Gateway} {settings : GatewaySettings}
    (agrees : gateway.check settings = .ok ()) (held : gateway.metadata.isReleased = false)
    (want : List Listener) :
    Repeats (gateway.synced want) (.ok (gateway.syncOutcome want))
      (ensureResult settings want (gateway.synced want)) := by
  cases left : gateway.synced want with
  | none =>
    have unwanted := unwanted_of_synced held left
    simp only [ensureResult, Object.syncOutcome, if_pos unwanted]
    exact .gone rfl
  | some made =>
    have still := Object.synced_of_synced held left
    have agrees' := (Object.check_of_synced left settings).trans agrees
    simp only [ensureResult, agrees', Object.syncOutcome_of_still still]
    rw [Object.syncOutcome]
    by_cases unwanted : want.isEmpty = true
    · rw [if_pos unwanted, if_pos unwanted]
      -- deleted twice: it is still there, so others hold it
      rcases Object.still_cases still with ⟨-, claimed, deleting⟩ | ⟨wanted, -⟩
      · refine .claimed made rfl deleting fun free => ?_
        rw [free] at claimed
        cases claimed
      · cases unwanted.symm.trans wanted
    · rw [if_neg unwanted, if_neg unwanted]
      split
      · exact .kept _ (.inr (.inr rfl))
      · exact .kept _ (.inr (.inl rfl))

/-- What ensuring reports the second time, by cases on the gateway and on what the first
sync has made of it. -/
theorem Sync.repeats_ensured (config : Config) (target : ObjectRef) (want : List Listener)
    (settings : GatewaySettings) {gateway : Option Gateway}
    (held : ∀ g, gateway = some g → g.metadata.isReleased = false) :
    Repeats (ensured config target settings want gateway) (ensureResult settings want gateway)
      (ensureResult settings want (ensured config target settings want gateway)) := by
  cases gateway with
  | none =>
    by_cases unwanted : want.isEmpty = true
    · have missing : ensured config target settings want none = none := if_pos unwanted
      rw [missing, ensureResult, if_pos unwanted]
      exact .absent
    · have created : ensureResult settings want none = .ok .created :=
        congrArg Except.ok (if_neg unwanted)
      rw [created]
      exact repeats_created config target unwanted settings
  | some g =>
    cases agrees : g.check settings with
    | error violation =>
      -- a gateway that disagrees is not touched, so it disagrees again
      have kept : ensured config target settings want (some g) = some g :=
        if_neg fun agreed => by cases agrees.symm.trans agreed
      rw [kept, ensureResult, agrees]
      exact .rejected violation
    | ok done =>
      have synced : ensured config target settings want (some g) = g.synced want :=
        if_pos agrees
      have reported : ensureResult settings want (some g) = .ok (g.syncOutcome want) := by
        rw [ensureResult, agrees]
      rw [synced, reported]
      exact repeats_synced agrees (held g rfl) want

namespace Cluster

/-- How an event ends that repeats another at once, in the cluster that the other
one has left. -/
inductive Echoes (w : Cluster) (key : ObjectRef) :
    Except ReconcileError Outcome → Except ReconcileError Outcome → Prop
  | notFound : Echoes w key (.ok .notFound) (.ok .notFound)
  | disabled : Echoes w key (.ok .disabled) (.ok .disabled)
  | noParentRef : Echoes w key (.ok .noParentRef) (.ok .noParentRef)
  | policy (violation : PolicyViolation) :
    Echoes w key (.error (.policy violation)) (.error (.policy violation))
  /-- The route that was let go is gone. -/
  | released (missing : w.routes.get key = none) : Echoes w key (.ok .finalized) (.ok .notFound)
  /-- Others hold the route that was let go, and it is passed over. -/
  | passedOver (route : Route) (found : w.routes.get key = some route)
    (deleting : route.isDeleting = true) (unmanaged : route.isManaged = false)
    (outcome : Outcome)
    (ended : outcome = if route.settings.enabled then .finalized else .disabled) :
    Echoes w key (.ok .finalized) (.ok outcome)
  /-- The gateway is in line by now. -/
  | inLine (outcome : SyncOutcome)
    (isKept : outcome = .created ∨ outcome = .patched ∨ outcome = .unchanged) :
    Echoes w key (.ok (.synced outcome)) (.ok (.synced .unchanged))
  | absent : Echoes w key (.ok (.synced .absent)) (.ok (.synced .absent))
  /-- The gateway that was deleted is gone. -/
  | gone (route : Route) (current : ObjectRef) (found : w.routes.get key = some route)
    (parent : route.parent? = some current) (missing : w.gateways.get current = none) :
    Echoes w key (.ok (.synced .deleted)) (.ok (.synced .absent))
  /-- Others hold the gateway that was deleted. -/
  | claimed (route : Route) (current : ObjectRef) (gateway : Gateway)
    (found : w.routes.get key = some route) (parent : route.parent? = some current)
    (there : w.gateways.get current = some gateway) (deleting : gateway.isDeleting = true)
    (claimed : gateway.finalizers ≠ []) :
    Echoes w key (.ok (.synced .deleted)) (.ok (.synced .deleted))

variable {after : Cluster} {route route' : Route} {current : ObjectRef}

/-- The route that an event leaves is the aftermath of the one that it met. -/
theorem Attended.left (attended : Attended config key w after)
    (found' : after.routes.get key = some route') :
    ∃ route left, w.routes.get key = some route ∧ route.aftermath key = some left
      ∧ route'.unversioned = left.unversioned := by
  obtain ⟨route, found, -⟩ := attended.keeps.route route' found'
  have own := attended.own
  rw [Store.view, found', found, Option.bind_some] at own
  obtain ⟨left, aftermath, same⟩ := Option.map_eq_some_iff.1 own.symm
  exact ⟨route, left, found, aftermath, same.symm⟩

theorem eventResult_of_finalizing (finalizing : (route.isDeleting && route.isManaged) = true) :
    w.eventResult config route = .ok .finalized :=
  if_pos finalizing

/-- The event of a route that is passed over ends as the route alone decides. -/
theorem eventResult_of_isIdle (isIdle : route.IsIdle) :
    w.eventResult config route = .ok (if route.settings.enabled then
      if route.isDeleting then .finalized else .noParentRef else .disabled) := by
  rw [eventResult, isIdle.unfinalizing]
  cases enabled : route.settings.enabled with
  | false => rfl
  | true =>
    cases deleting : route.isDeleting with
    | true => rfl
    | false =>
      have detached := isIdle.idle.resolve_left (by rw [enabled, deleting]; decide)
      rw [detached]
      rfl

/-- The event of a route whose gateway is seen to ends as its service does. -/
theorem eventResult_of_attends (attends : route.Attends current) :
    w.eventResult config route = w.serveResult config route current := by
  rw [eventResult, attends.live, attends.enabled, attends.parent]
  rfl

/-- The gateway of a served route was ensured for it. -/
theorem Attended.ensured (attended : Attended config key w after)
    (found : w.routes.get key = some route) (attends : route.Attends current)
    (managed : route.isManaged = true) :
    after.gateways.view current = Sync.ensured config current (route.settings.effective config)
      (w.wanted current) (w.gateways.view current) := by
  have stays : Reconcile.leftGateway? route current ≠ some current :=
    fun leaving => (leftGateway?_eq_some leaving).1 rfl
  have task : route.task config current = .ensure (route.settings.effective config) := by
    rw [Object.task, attends.live, attends.enabled, attends.parent, managed]
    simp [stays]
  rw [attended.gateways, Cluster.task, found]
  dsimp only
  rw [task]
  rfl

/-- A served route is there afterwards, and is as serving it would leave it. -/
theorem Attended.served (attended : Attended config key w after) (filed : route.ref = key)
    (found : w.routes.get key = some route) (attends : route.Attends current)
    (managed : route.isManaged = true) :
    ∃ route', after.routes.get key = some route' ∧ route.Continues route'
      ∧ route'.isManaged = true ∧ Reconcile.isRecorded route' current = true := by
  obtain ⟨left, served, continues, managed', recorded⟩ :=
    Object.served_of_managed filed attends managed
  have own := attended.own
  rw [found, Option.bind_some, Object.aftermath_of_attends attends, served,
    Option.map_some, Store.view] at own
  obtain ⟨route', found', same⟩ := Option.map_eq_some_iff.1 own
  refine ⟨route', found', continues.trans (.of_unversioned same), ?_, ?_⟩
  · exact (Object.congr_unversioned Object.isManaged (fun _ => rfl) same).trans managed'
  · exact (Object.congr_unversioned (Reconcile.isRecorded · current) (fun _ => rfl) same).trans
      recorded

/-- An event that does not end with the finalizer ends at rest. -/
theorem Attended.atRest (attended : Attended config key w after) (filed : route.ref = key)
    (held : w.Held) (found : w.routes.get key = some route)
    (ended : w.eventResult config route ≠ .ok .finalizerAdded)
    (found' : after.routes.get key = some route') : after.AtRest config route' := by
  obtain ⟨known, left, found'', aftermath, same⟩ := attended.left found'
  cases found.symm.trans found''
  cases finalizing : route.isDeleting && route.isManaged with
  | true =>
    exact .idle ((Object.isIdle_of_finalizing finalizing aftermath).of_unversioned same)
  | false =>
    rcases Object.idle_or_attends finalizing with isIdle | ⟨current, attends⟩
    · cases (Object.aftermath_of_isIdle isIdle).symm.trans aftermath
      exact .idle (isIdle.of_unversioned same)
    · cases managed : route.isManaged with
      | false =>
        -- such an event would have ended with the finalizer
        rw [eventResult_of_attends attends, serveResult, managed] at ended
        exact absurd rfl ended
      | true =>
        obtain ⟨_, found'', continues, managed', recorded⟩ :=
          attended.served filed found attends managed
        cases found'.symm.trans found''
        refine .served current (attends.of_continues continues) managed' recorded ?_
        rw [Ensured, continues.effective, attended.wanted, attended.ensured found attends managed]
        exact Task.make_make (.ensure (route.settings.effective config))
          (held_iff_view.1 held current)

/-- Serving a held route ends as ensuring its gateway does. -/
theorem serveResult_of_managed (managed : route.isManaged = true) :
    w.serveResult config route current
      = ((Sync.ensureResult (route.settings.effective config) (w.wanted current)
          (w.gateways.view current)).mapError ReconcileError.ofSync).map Outcome.synced := by
  rw [serveResult, managed]
  simp only [Bool.not_true, Bool.false_eq_true, if_false]
  cases Sync.ensureResult (route.settings.effective config) (w.wanted current)
    (w.gateways.view current) <;> rfl

/-- Served again, a route meets the gateway that was ensured for it. -/
theorem Attended.serve_echoes (attended : Attended config key w after) (filed : route.ref = key)
    (held : w.Held) (found : w.routes.get key = some route) (attends : route.Attends current)
    (managed : route.isManaged = true) :
    ∃ route', after.routes.get key = some route'
      ∧ after.Echoes key (w.eventResult config route) (after.eventResult config route') := by
  obtain ⟨route', found', continues, managed', -⟩ := attended.served filed found attends managed
  have attends' := attends.of_continues continues
  have view := attended.ensured found attends managed
  refine ⟨route', found', ?_⟩
  rw [eventResult_of_attends attends, eventResult_of_attends attends',
    serveResult_of_managed managed, serveResult_of_managed managed', continues.effective,
    attended.wanted, view]
  have repeats := Sync.repeats_ensured config current (w.wanted current)
    (route.settings.effective config) (held_iff_view.1 held current)
  rw [← view] at repeats ⊢
  -- both results are about one gateway, before and after the first event
  generalize Sync.ensureResult (route.settings.effective config) (w.wanted current)
    (w.gateways.view current) = first at repeats
  generalize Sync.ensureResult (route.settings.effective config) (w.wanted current)
    (after.gateways.view current) = second at repeats
  cases repeats with
  | rejected violation => exact .policy violation
  | absent => exact .absent
  | kept outcome isKept => exact .inLine outcome isKept
  | gone missing =>
    exact .gone route' current found' attends'.parent (Option.map_eq_none_iff.1 missing)
  | claimed gateway there deleting claimed =>
    obtain ⟨stored, isStored, same⟩ := Option.map_eq_some_iff.1 there
    subst same
    exact .claimed route' current stored found' attends'.parent isStored deleting claimed

/-- A route that was let go is gone, or held by others and passed over. -/
theorem Attended.finalize_echoes (attended : Attended config key w after)
    (found : w.routes.get key = some route)
    (finalizing : (route.isDeleting && route.isManaged) = true) :
    after.Echoes key (.ok .finalized)
      (match after.routes.get key with
        | none => .ok .notFound
        | some route' => after.eventResult config route') := by
  cases found' : after.routes.get key with
  | none => exact .released found'
  | some route' =>
    obtain ⟨known, left, found'', aftermath, same⟩ := attended.left found'
    cases found.symm.trans found''
    have isIdle := (Object.isIdle_of_finalizing finalizing aftermath).of_unversioned same
    have deleting : route'.isDeleting = true := by
      have known := (Object.Continues.of_unversioned same).isDeleting
      rw [Object.aftermath, if_pos finalizing] at aftermath
      cases Store.kept_eq_some aftermath
      exact known.trans (Bool.and_eq_true_iff.1 finalizing).1
    have unmanaged : route'.isManaged = false := by
      have released := isIdle.unfinalizing
      rwa [deleting, Bool.true_and] at released
    dsimp only
    rw [eventResult_of_isIdle isIdle, deleting]
    exact .passedOver route' found' deleting unmanaged _ rfl

/-- A route that is passed over is stored as it was, and is passed over again. -/
theorem Attended.idle_echoes (attended : Attended config key w after)
    (found : w.routes.get key = some route) (isIdle : route.IsIdle) :
    ∃ route', after.routes.get key = some route'
      ∧ after.Echoes key (w.eventResult config route) (after.eventResult config route') := by
  have own := attended.own
  rw [found, Option.bind_some, Object.aftermath_of_isIdle isIdle, Option.map_some,
    Store.view] at own
  obtain ⟨route', found', same⟩ := Option.map_eq_some_iff.1 own
  have continues := Object.Continues.of_unversioned same
  have isIdle' := isIdle.of_unversioned same
  refine ⟨route', found', ?_⟩
  rw [eventResult_of_isIdle isIdle, eventResult_of_isIdle isIdle', continues.enabled,
    continues.isDeleting]
  cases enabled : route.settings.enabled with
  | false => exact .disabled
  | true =>
    cases deleting : route.isDeleting with
    | false => exact .noParentRef
    | true =>
      have deleting' := continues.isDeleting.trans deleting
      have unmanaged := isIdle'.unfinalizing
      rw [deleting', Bool.true_and] at unmanaged
      refine .passedOver route' found' deleting' unmanaged _ ?_
      rw [continues.enabled, enabled]
      rfl

/-- An event that does not end with the finalizer is echoed by the next. -/
theorem Attended.echoes (attended : Attended config key w after) (filed : route.ref = key)
    (held : w.Held) (found : w.routes.get key = some route)
    (ended : w.eventResult config route ≠ .ok .finalizerAdded) :
    after.Echoes key (w.eventResult config route)
      (match after.routes.get key with
        | none => .ok .notFound
        | some route' => after.eventResult config route') := by
  cases finalizing : route.isDeleting && route.isManaged with
  | true =>
    rw [eventResult_of_finalizing finalizing]
    exact attended.finalize_echoes found finalizing
  | false =>
    rcases Object.idle_or_attends finalizing with isIdle | ⟨current, attends⟩
    · obtain ⟨route', found', echoes⟩ := attended.idle_echoes found isIdle
      rw [found']
      exact echoes
    · cases managed : route.isManaged with
      | false =>
        rw [eventResult_of_attends attends, serveResult, managed] at ended
        -- only this event ends with the finalizer
        exact absurd rfl ended
      | true =>
        obtain ⟨route', found', echoes⟩ :=
          attended.serve_echoes filed held found attends managed
        rw [found']
        exact echoes

/-- A route that has been given the finalizer is not given it again. -/
theorem eventResult_of_held (managed : route.isManaged = true) :
    w.eventResult config route ≠ .ok .finalizerAdded := by
  cases finalizing : route.isDeleting && route.isManaged with
  | true =>
    rw [eventResult_of_finalizing finalizing]
    exact nofun
  | false =>
    rcases Object.idle_or_attends finalizing with isIdle | ⟨current, attends⟩
    · rw [eventResult_of_isIdle isIdle]
      split
      · split <;> exact nofun
      · exact nofun
    · rw [eventResult_of_attends attends, serveResult_of_managed managed]
      cases Sync.ensureResult (route.settings.effective config) (w.wanted current)
        (w.gateways.view current) <;> exact nofun

/-- The finalizer stays where it was added. -/
theorem Attended.managed_of_added (attended : Attended config key w after)
    (found : w.routes.get key = some route)
    (added : w.eventResult config route = .ok .finalizerAdded)
    (found' : after.routes.get key = some route') : route'.isManaged = true := by
  obtain ⟨known, left, found'', aftermath, same⟩ := attended.left found'
  cases found.symm.trans found''
  have managed : left.isManaged = true := by
    cases finalizing : route.isDeleting && route.isManaged with
    | true =>
      rw [eventResult_of_finalizing finalizing] at added
      cases added
    | false =>
      rcases Object.idle_or_attends finalizing with isIdle | ⟨current, attends⟩
      · rw [eventResult_of_isIdle isIdle] at added
        split at added
        · split at added <;> cases added
        · cases added
      · rw [Object.aftermath_of_attends attends] at aftermath
        exact Object.isManaged_of_served aftermath
  exact (Object.congr_unversioned Object.isManaged (fun _ => rfl) same).trans managed

end Cluster

/-- An event that repeats another at once changes nothing, versions included, and
ends as an echo of the other one; unless that one ended with the finalizer, which
the next event does not do again. -/
theorem repeated_event_changes_nothing (config : Config) {w : Cluster} (calm : w.Calm)
    (filed : w.Filed) (held : w.Held) (key : ObjectRef) :
    let first := (reconcile config key).run w
    let second := (reconcile config key).run first.cluster
    (first.result ≠ .ok .finalizerAdded →
        second.cluster = first.cluster ∧ first.cluster.Echoes key first.result second.result)
      ∧ (first.result = .ok .finalizerAdded → second.result ≠ .ok .finalizerAdded) := by
  intro first second
  obtain ⟨attended, ended⟩ := attended_run config calm (filed key)
  -- the second event meets what the first one has left, and that is in order too
  have filed' : ∀ route', first.cluster.routes.get key = some route' → route'.ref = key := by
    intro route' found'
    obtain ⟨route, found, continues⟩ := attended.keeps.route route' found'
    exact continues.ref.trans (filed key route found)
  obtain ⟨-, ended'⟩ := attended_run config attended.calm filed'
  change first.result = _ at ended
  change second.result = _ at ended'
  cases found : w.routes.get key with
  | none =>
    rw [found] at ended
    have missing : first.cluster.routes.get key = none := by
      have own := attended.own
      rw [found, Option.bind_none, Store.view] at own
      exact Option.map_eq_none_iff.1 own
    rw [missing] at ended'
    refine ⟨fun _ => ⟨?_, ?_⟩, fun added => by cases ended.symm.trans added⟩
    · refine run_of_unplanned attended.calm.unplanned
        (ends_reconcile_atRest fun route' found' => ?_)
      cases missing.symm.trans found'
    · rw [ended, ended']
      exact .notFound
  | some route =>
    rw [found] at ended
    refine ⟨fun other => ⟨?_, ?_⟩, fun added => ?_⟩
    · rw [ended] at other
      exact run_of_unplanned attended.calm.unplanned (ends_reconcile_atRest fun route' found' =>
        attended.atRest (filed key route found) held found other found')
    · rw [ended] at other ⊢
      rw [ended']
      exact attended.echoes (filed key route found) held found other
    · rw [ended] at added
      rw [ended']
      cases found' : first.cluster.routes.get key with
      | none =>
        intro again
        cases again
      | some route' =>
        exact Cluster.eventResult_of_held (attended.managed_of_added found added found')

/-- A route that has moved away from one gateway and asks nothing of the other,
which somebody else holds. -/
def withdrawn : Cluster where
  routes := { objects := .ofList [
    (⟨"apps", "web"⟩,
      Route.optedIn ⟨"apps", "web"⟩ ⟨"infra", "new"⟩ ""
        [(AnnotationKey.reconciled, "true"), (AnnotationKey.previousGateway, "infra/old")]
        [finalizer])] }
  gateways := { objects := .ofList [
    (⟨"infra", "old"⟩, listing ⟨"infra", "old"⟩),
    (⟨"infra", "new"⟩,
      (listing ⟨"infra", "new"⟩).refinalized ["example.com/audit"] none)] }
where
  /-- The gateway lists a hostname that nobody asks for. -/
  listing (target : ObjectRef) : Gateway :=
    Gateway.recording target ⟨"internpki", "hnet-private"⟩ "eg" [.https "a.example.com" "infra"]

theorem withdrawn_calm : withdrawn.Calm :=
  ⟨fun _ => rfl, ⟨rfl, rfl, rfl⟩, ⟨rfl, rfl, rfl⟩⟩

/-- The route is stored under its own name. -/
theorem withdrawn_filed : withdrawn.Filed := by
  intro key route found
  have stored : (key, route) ∈ [(⟨"apps", "web"⟩, _)] := Table.find?_eq_some_iff.1 found
  cases List.mem_singleton.1 stored
  rfl

/-- No gateway is released. -/
theorem withdrawn_held : withdrawn.Held := by
  intro target gateway found
  have stored : (target, gateway) ∈ [(⟨"infra", "new"⟩, _), (⟨"infra", "old"⟩, _)] :=
    Table.find?_eq_some_iff.1 found
  rcases List.mem_cons.1 stored with isNew | stored
  · cases isNew
    rfl
  · cases List.mem_singleton.1 stored
    rfl

/-- The gateway is deleted, but held by others, and deleting it again changes
nothing. -/
theorem held_gateway_is_deleted_again :
    let first := (reconcile .standard ⟨"apps", "web"⟩).run withdrawn
    let second := (reconcile .standard ⟨"apps", "web"⟩).run first.cluster
    first.result = .ok (.synced .deleted) ∧ second.result = .ok (.synced .deleted)
      ∧ second.cluster = first.cluster := by
  intro first second
  have ended : first.result = .ok (.synced .deleted) := by decide +kernel
  have ended' : second.result = .ok (.synced .deleted) := by decide +kernel
  have other : first.result ≠ .ok .finalizerAdded := by
    intro added
    cases ended.symm.trans added
  obtain ⟨same, -⟩ := (repeated_event_changes_nothing .standard withdrawn_calm withdrawn_filed
    withdrawn_held ⟨"apps", "web"⟩).1 other
  exact ⟨ended, ended', same⟩

end SharedGateway
