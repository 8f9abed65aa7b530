/-
Updates that lose races.

# Conflicts are used up

An event writes the finalizers of its route at most once, and the write may meet a
conflict any number of times before it lands. A conflict is a mark in the store of
routes that the next patch meets and uses up, whichever it is; reading does not. So
an attempt that meets one fails, changes nothing else, and leaves one conflict fewer
(`ends_addFinalizerOnce_contended`, `ends_removeFinalizerOnce_contended`); the next
attempt reads again, and is as good as the first.

# The loop

So the loop ends with the write if fewer conflicts await it than it has attempts, and
else with the route as it was and that many conflicts fewer
(`ends_updating_contended`). The induction is on the attempts that are left, for any
number of conflicts (`ends_retryFrom_contended`). It knows nothing of finalizers: an
attempt has to lose to each conflict, and to win without one.

# The events

`finalizers_outlast_conflicts` gives this for the two events that write finalizers. A
live route leaves its former gateway first, well or not; a deleting one has its
gateways refreshed first, which must succeed. Neither touches the routes or their
conflicts, so how the event ends depends on the routes that it finds
(`Cluster.contends_congr`). An event that gives up can be followed by one that meets
no conflict any more, and lets the route go (`finalized_of_calm`).
-/
import SharedGateway.Proofs.ExactEvent

namespace SharedGateway

open Cluster (performs)
open Script

-- ============================================================ conflicts

namespace Cluster

/-- The cluster with that many conflicts awaiting the next patches of routes. -/
def withConflicts (w : Cluster) (n : Nat) : Cluster :=
  { w with routes := { w.routes with queuedConflicts := n } }

variable {w : Cluster}

theorem withConflicts_self (w : Cluster) : w.withConflicts w.routes.queuedConflicts = w := rfl

/-- Routes that are calm but for their conflicts stay so when no route is written. -/
theorem calm_of_routes {mid : Cluster} (routes : mid.routes = w.routes)
    (calm : (w.withConflicts 0).routes.Calm) : (mid.withConflicts 0).routes.Calm := by
  rw [withConflicts, routes]
  exact calm

end Cluster

/-- What a patch of a route reports that loses its race. -/
def lostRace (key : ObjectRef) : StoreError :=
  .conflict Kind.httpRoute.toText key.toText

variable {config : Config} {w : Cluster} {key : ObjectRef} {route : Route}

theorem perform_merge_contended (w : Cluster) (left : Nat) (key : ObjectRef) (patch : Json) :
    (w.withConflicts (left + 1)).perform (.routes (.merge key patch))
      = (.error (lostRace key), w.withConflicts left) := rfl

-- ============================================================= attempts

/-- An attempt at holding a route loses to a conflict, and uses it up. -/
theorem ends_addFinalizerOnce_contended (found : w.routes.get key = some route)
    (unmanaged : route.isManaged = false) (left : Nat) :
    (Reconcile.addFinalizerOnce key).Ends performs (w.withConflicts (left + 1))
      fun result after => result = .error (lostRace key) ∧ after = w.withConflicts left := by
  have found' : (w.withConflicts (left + 1)).routes.get key = some route := found
  exact ends_addFinalizerOnce_merged found' unmanaged rfl (perform_merge_contended w left key _)

/-- So does an attempt at letting it go. -/
theorem ends_removeFinalizerOnce_contended (found : w.routes.get key = some route)
    (managed : route.isManaged = true) (left : Nat) :
    (Reconcile.removeFinalizerOnce key).Ends performs (w.withConflicts (left + 1))
      fun result after => result = .error (lostRace key) ∧ after = w.withConflicts left := by
  have found' : (w.withConflicts (left + 1)).routes.get key = some route := found
  refine ends_removeFinalizerOnce_merged found' managed rfl
    (perform_merge_contended w left key _) fun e failed => ?_
  cases failed
  rfl

-- ============================================================= the loop

section Loop

variable {act : Script StoreError Unit} {cause : StoreError} {P : Cluster → Prop}

/-- Each attempt uses up one conflict. The loop ends with the attempt that meets
none, or with its last one. -/
theorem ends_retryFrom_contended (conflict : cause.isConflict = true)
    (loses : ∀ left, act.Ends performs (w.withConflicts (left + 1)) fun result after =>
      result = .error cause ∧ after = w.withConflicts left)
    (wins : act.Ends performs (w.withConflicts 0) fun result after => result = .ok () ∧ P after)
    (attempt left conflicts : Nat) :
    (retryFrom (pure ()) act.attempt attempt left :
        Script ReconcileError (Except RetryError Unit)).Ends performs (w.withConflicts conflicts)
      fun result after =>
        if conflicts ≤ left then result = .ok (.ok ()) ∧ P after
        else result = .ok (.error (.exhausted (attempt + left) cause))
          ∧ after = w.withConflicts (conflicts - (left + 1)) := by
  -- a lost attempt takes one from the conflicts and one from the attempts that are left
  induction left generalizing attempt conflicts with
  | zero =>
    cases conflicts with
    | zero => exact ends_retryFrom_once (pure ()) wins attempt 0
    | succ conflicts =>
      refine ends_bind.2 (ends_attempt.2 ((loses conflicts).mono fun ended after lost => ?_))
      obtain ⟨rfl, rfl⟩ := lost
      dsimp only
      rw [if_pos conflict]
      exact ⟨rfl, rfl⟩
  | succ left ih =>
    cases conflicts with
    | zero => exact ends_retryFrom_once (pure ()) wins attempt (left + 1)
    | succ conflicts =>
      refine ends_bind.2 (ends_attempt.2 ((loses conflicts).mono fun ended after lost => ?_))
      obtain ⟨rfl, rfl⟩ := lost
      dsimp only
      rw [if_pos conflict]
      have rest := ih (attempt + 1) conflicts
      simp only [Nat.add_le_add_iff_right, Nat.add_sub_add_right]
      rw [Nat.add_assoc, Nat.add_comm 1 left] at rest
      exact rest

/-- The loop of an update. -/
theorem ends_updating_contended (config : Config) (conflict : cause.isConflict = true)
    (loses : ∀ left, act.Ends performs (w.withConflicts (left + 1)) fun result after =>
      result = .error cause ∧ after = w.withConflicts left)
    (wins : act.Ends performs (w.withConflicts 0) fun result after =>
      result = .ok () ∧ P after) :
    let attempts := config.conflictRetry.attempts
    let conflicts := w.routes.queuedConflicts
    (Reconcile.updating config act).Ends performs w fun result after =>
      if conflicts < attempts then result = .ok () ∧ P after
      else result = .error (.retriesExhausted attempts cause)
        ∧ after = w.withConflicts (conflicts - attempts) := by
  intro attempts conflicts
  have positive : 0 < attempts := config.conflictRetry.positive
  -- the first attempt is the loop with all but one of the attempts left
  have loop := ends_retryFrom_contended conflict loses wins 1 (attempts - 1) conflicts
  rw [w.withConflicts_self, show attempts - 1 + 1 = attempts by omega,
    show 1 + (attempts - 1) = attempts by omega] at loop
  rw [Reconcile.updating_eq]
  refine ends_bind.2 (loop.mono fun retried after ended => ?_)
  split at ended
  · rename_i fewer
    obtain ⟨rfl, holds⟩ := ended
    show if conflicts < attempts then _ else _
    rw [if_pos (by omega)]
    exact ⟨rfl, holds⟩
  · rename_i enough
    obtain ⟨rfl, left⟩ := ended
    show if conflicts < attempts then _ else _
    rw [if_neg (by omega)]
    exact ⟨rfl, left⟩

end Loop

-- ========================================================== the events

namespace Cluster

/-- No route has changed but in the finalizers of one, and no conflict awaits the
next patch. A deleting route that nothing holds any more is gone. -/
structure Refitted (w after : Cluster) (key : ObjectRef) (route : Route)
    (finalizers : List String) : Prop where
  uncontended : after.routes.queuedConflicts = 0
  others : ∀ other, other ≠ key → after.routes.get other = w.routes.get other
  own : if route.isDeleting = true ∧ finalizers = [] then after.routes.get key = none
    else ∃ version, after.routes.get key = some (route.refinalized finalizers (some version))

/-- The event writes the finalizers and ends well if fewer conflicts await it than
it has attempts. Else it gives up with the routes as they were, and each attempt
has used up one conflict. -/
def Contends (config : Config) (w : Cluster) (key : ObjectRef) (route : Route)
    (finalizers : List String) (outcome : Outcome)
    (result : Except ReconcileError Outcome) (after : Cluster) : Prop :=
  let attempts := config.conflictRetry.attempts
  let conflicts := w.routes.queuedConflicts
  if conflicts < attempts then
    result = .ok outcome ∧ Refitted w after key route finalizers
  else
    result = .error (.retriesExhausted attempts (lostRace key))
      ∧ after.routes = { w.routes with queuedConflicts := conflicts - attempts }

end Cluster

open Cluster (Contends Refitted)

/-- A patch that lands has changed the finalizers of its route, and nothing else. -/
theorem refitted_replace (w : Cluster) (key : ObjectRef) (route : Route)
    (finalizers : List String) (version : Option String) :
    let quiet := w.withConflicts 0
    let written := route.refinalized finalizers version
    Refitted w { quiet with routes := quiet.routes.replace key written } key route finalizers := by
  intro quiet written
  have stored : ∀ other, (quiet.routes.replace key written).get other
      = if key = other then if written.metadata.isReleased then none
          else some (quiet.routes.stamped written)
        else quiet.routes.get other := fun other => quiet.routes.get_replace key other written
  refine ⟨?_, fun other differ => ?_, ?_⟩
  · show (quiet.routes.replace key written).queuedConflicts = 0
    unfold Store.replace
    split <;> rfl
  · exact (stored other).trans (if_neg (Ne.symm differ))
  -- a route goes with its last finalizer, once it is deleting
  · have released : written.metadata.isReleased = true
        ↔ route.isDeleting = true ∧ finalizers = [] := by
      show (route.isDeleting && finalizers.isEmpty) = true ↔ _
      rw [Bool.and_eq_true, List.isEmpty_iff]
    have own := (stored key).trans (if_pos rfl)
    split
    · rename_i gone
      rw [if_pos (released.2 gone)] at own
      exact own
    · rename_i stays
      rw [if_neg (mt released.1 stays)] at own
      exact ⟨quiet.routes.versionText, own⟩

/-- How an event ends depends on the routes that it finds, and on no gateway. -/
theorem Cluster.contends_congr {mid : Cluster} {finalizers : List String} {outcome : Outcome}
    {result : Except ReconcileError Outcome} {after : Cluster} (routes : mid.routes = w.routes)
    (contends : Contends config mid key route finalizers outcome result after) :
    Contends config w key route finalizers outcome result after := by
  unfold Contends at contends ⊢
  rw [routes] at contends
  dsimp only at contends ⊢
  split
  · rename_i fewer
    rw [if_pos fewer] at contends
    obtain ⟨ended, refitted⟩ := contends
    exact ⟨ended, refitted.uncontended, routes ▸ refitted.others, refitted.own⟩
  · rename_i enough
    rw [if_neg enough] at contends
    exact contends

/-- An update of the finalizers is all that an event writes to its route. -/
theorem ends_updating_contends (config : Config) (outcome : Outcome)
    {act : Script StoreError Unit} {finalizers : List String}
    (loses : ∀ left, act.Ends performs (w.withConflicts (left + 1)) fun result after =>
      result = .error (lostRace key) ∧ after = w.withConflicts left)
    (wins :
      let quiet := w.withConflicts 0
      let written := route.refinalized finalizers route.resourceVersion
      act.Ends performs quiet fun result after =>
        result = .ok () ∧ after = { quiet with routes := quiet.routes.replace key written }) :
    (Reconcile.updating config act >>= fun _ => pure outcome).Ends performs w
      (Contends config w key route finalizers outcome) := by
  have conflict : (lostRace key).isConflict = true := rfl
  have updates := ends_updating_contended config conflict loses wins
  refine ends_bind.2 (updates.mono fun result after ended => ?_)
  split at ended
  · rename_i fewer
    obtain ⟨rfl, rfl⟩ := ended
    show Contends config w key route finalizers outcome (.ok outcome) _
    unfold Contends
    rw [if_pos fewer]
    exact ⟨rfl, refitted_replace w key route finalizers _⟩
  · rename_i enough
    obtain ⟨rfl, rfl⟩ := ended
    show Contends config w key route finalizers outcome (.error _) _
    unfold Contends
    rw [if_neg enough]
    exact ⟨rfl, rfl⟩

/-- Leaving a gateway is never an error, whatever comes of the refresh. -/
theorem ends_leavePrevious_ok {answering : Answering} (route : Route) (current : ObjectRef) :
    (Reconcile.leavePrevious route current).Ends answering w fun result _ => result = .ok () :=
  ends_leavePrevious_of (fun _ => rfl) fun _ _ => ends_of_forall fun _ _ => rfl

/-- A live route leaves its former gateway, well or not, and is held. -/
theorem ends_attach_contends (config : Config) (calm : (w.withConflicts 0).routes.Calm)
    (found : w.routes.get key = some route) (unmanaged : route.isManaged = false)
    (current : ObjectRef) :
    (Reconcile.attach config key route current).Ends performs w
      (Contends config w key route (route.finalizers ++ [finalizer]) .finalizerAdded) := by
  have left := ends_performs (ends_leavePrevious route current w)
  rw [attach_eq]
  refine (left.and (ends_leavePrevious_ok route current)).bind (fun _ mid ⟨left, _⟩ => ?_)
    fun e mid ⟨_, ok⟩ => nomatch ok
  have routes : mid.routes = w.routes := left.routes
  have found' : mid.routes.get key = some route := by rw [routes, found]
  have calm' := Cluster.calm_of_routes routes calm
  have update := ends_updating_contends config .finalizerAdded
    (ends_addFinalizerOnce_contended found' unmanaged)
    (ends_addFinalizerOnce_exact calm' found' unmanaged)
  exact Reconcile.serve_elim config key route current
    (fun _ => update.mono fun result after contends => Cluster.contends_congr routes contends)
    fun managed => nomatch unmanaged.symm.trans managed

/-- A deleting route whose gateways can be refreshed is let go. -/
theorem ends_finalize_contends (config : Config) (unplanned : w.Unplanned)
    (calm : (w.withConflicts 0).routes.Calm) (found : w.routes.get key = some route)
    (managed : route.isManaged = true)
    (refreshed :
      ((Reconcile.refreshAll (Reconcile.formerGateways route)).run w).result = .ok ()) :
    (Reconcile.finalize config key route).Ends performs w
      (Contends config w key route (Reconcile.released route.finalizers) .finalized) := by
  have left := (ends_performs (ends_refreshAll (Reconcile.formerGateways route) w)).and
    (ends_of_run unplanned)
  rw [Reconcile.finalize_eq, ends_bind, ends_mapError]
  refine left.mono fun result mid ⟨left, ended, _⟩ => ?_
  have routes : mid.routes = w.routes := left.routes
  have found' : mid.routes.get key = some route := by rw [routes, found]
  have calm' := Cluster.calm_of_routes routes calm
  have update := ends_updating_contends config .finalized
    (ends_removeFinalizerOnce_contended found' managed)
    (ends_removeFinalizerOnce_exact calm' found' managed)
  rw [ended, refreshed]
  exact update.mono fun result after contends => Cluster.contends_congr routes contends

/-- A route is held if the operator's finalizer is among its own. -/
theorem Object.isManaged_iff : route.isManaged = true ↔ finalizer ∈ route.finalizers :=
  List.contains_iff_mem

/-- Where nothing is planned, an event ends as handling its route does. -/
theorem run_reconcile_of_handle {Q : Except ReconcileError Outcome → Cluster → Prop}
    (unplanned : w.Unplanned) (found : w.routes.get key = some route)
    (ends : (Reconcile.handle config key route).Ends performs w Q) :
    let run := (reconcile config key).run w
    Q run.result run.cluster := by
  refine run_of_unplanned unplanned (ends_reconcile_of_handle (fun missing => ?_)
    (fun known found' => ?_) nofun)
  · cases found.symm.trans missing
  · cases found.symm.trans found'
    exact ends

/-- In a calm cluster a deleting route is let go by its event. -/
theorem finalized_of_calm (config : Config) (calm : w.Calm)
    (found : w.routes.get key = some route) (deleting : route.isDeleting = true)
    (managed : route.isManaged = true) :
    let run := (reconcile config key).run w
    run.result = .ok .finalized
      ∧ Refitted w run.cluster key route (Reconcile.released route.finalizers) := by
  have refreshed := run_of_unplanned calm.unplanned
    (ends_refreshAll_exact (nodup_formerGateways route) calm)
  have handled : (Reconcile.handle config key route).Ends performs w
      (Contends config w key route (Reconcile.released route.finalizers) .finalized) := by
    rw [handle_of_finalizing config key deleting managed]
    refine ends_finalize_contends config calm.unplanned ?_ found managed refreshed.1
    exact ⟨rfl, calm.routes.noCreation, calm.routes.noVanishing⟩
  have contends := run_reconcile_of_handle calm.unplanned found handled
  unfold Contends at contends
  rw [calm.routes.noConflicts] at contends
  rw [if_pos config.conflictRetry.positive] at contends
  exact contends

/-- Conflicts await the patches of routes, and nothing else disturbs an event. Of
a route to be held, the finalizers gain the operator's own at the end; of a
deleting route that is held and whose gateways can be refreshed, they lose every
entry of it. Either happens if fewer conflicts await the event than it has
attempts, and else nothing happens to the route; a deleting one is then let go by
any later event that meets no disturbance. -/
theorem finalizers_outlast_conflicts (config : Config) {w : Cluster} {key : ObjectRef}
    {route : Route} (unplanned : w.Unplanned) (calm : (w.withConflicts 0).routes.Calm)
    (found : w.routes.get key = some route) :
    let run := (reconcile config key).run w
    (route.isDeleting = false → route.settings.enabled = true →
      (∃ current, route.parent? = some current) → finalizer ∉ route.finalizers →
      Contends config w key route (route.finalizers ++ [finalizer]) .finalizerAdded
        run.result run.cluster)
    ∧ (route.isDeleting = true → finalizer ∈ route.finalizers →
      ((Reconcile.refreshAll (Reconcile.formerGateways route)).run w).result = .ok () →
      let others := route.finalizers.filter (· ≠ finalizer)
      Contends config w key route others .finalized run.result run.cluster
        ∧ ∀ later : Cluster, later.Calm → later.routes.get key = some route →
          let again := (reconcile config key).run later
          again.result = .ok .finalized ∧ Refitted later again.cluster key route others) := by
  intro run
  refine ⟨fun live enabled ⟨current, parent⟩ free => ?_, fun deleting held refreshed => ⟨?_, ?_⟩⟩
  · have unmanaged : route.isManaged = false := by
      rwa [← Bool.not_eq_true, Object.isManaged_iff]
    refine run_reconcile_of_handle unplanned found ?_
    rw [handle_of_attached config key live enabled parent]
    exact ends_attach_contends config calm found unmanaged current
  · have managed := Object.isManaged_iff.2 held
    refine run_reconcile_of_handle unplanned found ?_
    rw [handle_of_finalizing config key deleting managed]
    exact ends_finalize_contends config unplanned calm found managed refreshed
  · intro later calm' found'
    exact finalized_of_calm config calm' found' deleting (Object.isManaged_iff.2 held)

/-- Conflicts await the patches of a route that is alone in its cluster. -/
def contended (route : Route) (conflicts : Nat) : Cluster where
  routes := { objects := .ofList [(⟨"apps", "web"⟩, route)], queuedConflicts := conflicts }
where
  /-- Somebody else holds the route before the operator does. -/
  entering : Route :=
    Route.optedIn ⟨"apps", "web"⟩ ⟨"infra", "edge"⟩ "a.example.com" [] ["example.com/backup"]
  /-- The operator holds the deleting route twice. -/
  leaving : Route :=
    (entering.refinalized [finalizer, "example.com/backup", finalizer] none).remarked
      (some Store.deletionTime) none

/-- Of five attempts the last one lands after four conflicts; after five conflicts
none is left, and the next event starts anew. -/
theorem contended_finalizers :
    let event := reconcile .standard ⟨"apps", "web"⟩
    let added := event.run (contended contended.entering 4)
    let given := event.run (contended contended.leaving 5)
    let again := event.run (contended contended.leaving 0)
    (added.result = .ok .finalizerAdded
      ∧ Refitted (contended contended.entering 4) added.cluster ⟨"apps", "web"⟩
        contended.entering ["example.com/backup", finalizer])
    ∧ (given.result = .error (.retriesExhausted 5 (lostRace ⟨"apps", "web"⟩))
      ∧ given.cluster.routes.get ⟨"apps", "web"⟩ = some contended.leaving
      ∧ given.cluster.routes.queuedConflicts = 0)
    ∧ again.result = .ok .finalized
      ∧ Refitted (contended contended.leaving 0) again.cluster ⟨"apps", "web"⟩
        contended.leaving ["example.com/backup"] := by
  intro event added given again
  have stored : ∀ route conflicts,
      (contended route conflicts).routes.get ⟨"apps", "web"⟩ = some route := fun _ _ => rfl
  have holds := (finalizers_outlast_conflicts .standard (fun _ => rfl) ⟨rfl, rfl, rfl⟩
    (stored contended.entering 4)).1 (by decide) (by decide) ⟨_, rfl⟩ (by decide)
  obtain ⟨waits, later⟩ := (finalizers_outlast_conflicts .standard (fun _ => rfl)
    ⟨rfl, rfl, rfl⟩ (stored contended.leaving 5)).2 (by decide) (by decide) (by decide)
  obtain ⟨exhausted, unchanged⟩ := waits
  refine ⟨holds, ⟨exhausted, ?_, ?_⟩, ?_⟩
  · rw [unchanged]
    rfl
  · rw [unchanged]
    rfl
  · exact later (contended contended.leaving 0)
      ⟨fun _ => rfl, ⟨rfl, rfl, rfl⟩, ⟨rfl, rfl, rfl⟩⟩ (stored _ 0)

end SharedGateway
