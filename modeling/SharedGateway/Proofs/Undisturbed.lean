/-
Events that nothing disturbs.

# No call fails

`Unfailing` states that no call of a script fails where its store alone answers it.
It composes as `Ends` does: the second part of a sequence is argued in the cluster
that the first part leaves (`Unfailing.bind`). In a calm cluster no operation of an
event makes a call that its store refuses. A patch carries the version that was read
a moment before, and what it leaves can be read back; a deletion carries that version
too; a creation follows a look at the same key that found nothing. No planned
disturbance can come in between, and no mark of another writer is there to be met.

# What remains

So only the records of a gateway can make such an event fail
(`undisturbed_event_fails_by_policy_only`), and a store error that comes to the
surface has a disturbance behind it. How the event ends is known from its exact
description (`Cluster.eventResult_cases`); that the refresh of any gateway, at any
moment of the event, would succeed follows from the calm that every call leaves
behind (`Unfailing.run`).
-/
import SharedGateway.Proofs.ExactEvent

namespace SharedGateway

open Cluster (performs)

-- ============================================================= the logic

namespace Script

variable {ε ε' α β : Type}

/-- No call of the script fails where its store alone answers it. -/
def Unfailing : Script ε α → Cluster → Prop
  | .done _, _ => True
  | .call c next, w =>
    (∃ answer, (w.perform c).1 = .ok answer)
      ∧ (next (w.perform c).1).Unfailing (w.perform c).2

variable {s : Script ε α} {f : α → Script ε β} {w : Cluster}

theorem Unfailing.bind {P : Except ε α → Cluster → Prop} (first : s.Unfailing w)
    (ends : s.Ends performs w P)
    (rest : ∀ a after, P (.ok a) after → (f a).Unfailing after) : (s >>= f).Unfailing w := by
  induction s generalizing w with
  | done result =>
    cases result with
    | ok a => exact rest a w ends
    | error e => trivial
  | call c next ih => exact ⟨first.1, ih _ first.2 (ends _ _ rfl)⟩

/-- What cannot fail anywhere cannot fail where the first part leaves off. -/
theorem Unfailing.then (first : s.Unfailing w) (rest : ∀ a after, (f a).Unfailing after) :
    (s >>= f).Unfailing w :=
  first.bind (ends_of_forall (P := fun _ _ => True) fun _ _ => trivial) fun a after _ =>
    rest a after

/-- Renamed errors fail no more and no less. -/
theorem unfailing_mapError {g : ε → ε'} : (s.mapError g).Unfailing w ↔ s.Unfailing w := by
  induction s generalizing w with
  | done result => rfl
  | call c next ih => exact and_congr_right fun _ => ih _

/-- An attempt makes the same calls. -/
theorem unfailing_attempt :
    (s.attempt : Script ε' (Except ε α)).Unfailing w ↔ s.Unfailing w := by
  induction s generalizing w with
  | done result => rfl
  | call c next ih => exact and_congr_right fun _ => ih _

/-- A call that its store answers, and what follows it. -/
theorem Unfailing.request {c : Call} {g : StoreError → ε} {f : c.Answer → Script ε β}
    {answer : c.Answer} {after : Cluster} (performed : w.perform c = (.ok answer, after))
    (rest : (f answer).Unfailing after) : ((request c).mapError g >>= f).Unfailing w := by
  refine ⟨⟨answer, congrArg Prod.fst performed⟩, ?_⟩
  show Unfailing (Script.done ((w.perform c).1.mapError g) >>= f) (w.perform c).2
  rw [performed]
  exact rest

/-- In a calm cluster no call of a run fails, and each leaves the cluster calm for
the next. -/
theorem Unfailing.run (h : s.Unfailing w) (calm : w.Calm) :
    ∀ m ∈ (s.run w).moments, ¬ m.Failed ∧ m.met.Calm := by
  induction s generalizing w with
  | done result => exact fun m member => nomatch member
  | call c next ih =>
    obtain ⟨⟨answer, ok⟩, later⟩ := h
    intro m member
    simp only [Script.run, calm.unplanned.answer c, Run.preceded, List.singleton_append,
      List.mem_cons] at member
    obtain rfl | member := member
    · refine ⟨?_, calm⟩
      rintro ⟨e, failed⟩
      cases ok.symm.trans failed
    · exact ih _ later (calm.perform c) m member

end Script

open Script

-- =============================================================== syncs

variable {w : Cluster} {target : ObjectRef} {existing : Gateway}

/-- Gateways can be read. -/
theorem unfailing_read_bind {β : Type} {f : Option Gateway → Script SyncError β}
    (rest : (f (w.gateways.get target)).Unfailing w) :
    ((liftM (Gateways.get target) : Script SyncError (Option Gateway)) >>= f).Unfailing w :=
  .request rfl rest

/-- Routes can be listed. -/
theorem unfailing_collect_bind {β : Type} {f : Aggregation → Script SyncError β}
    (rest : (f (.ofRoutes w.routes.list target)).Unfailing w) :
    ((liftM (Sync.collect target) : Script SyncError Aggregation) >>= f).Unfailing w :=
  ⟨⟨_, rfl⟩, rest⟩

/-- A gateway is deleted in the version that was read. -/
theorem unfailing_remove (found : w.gateways.get target = some existing) :
    (Sync.remove target existing).Unfailing w := by
  have deleted : (w.perform (.gateways (.delete target existing.resourceVersion))).1 = .ok () :=
    (Store.delete_own found).1
  have once : (Gateways.delete target existing.resourceVersion).Unfailing w :=
    ⟨⟨(), deleted⟩, trivial⟩
  rw [Sync.remove_eq]
  exact (unfailing_attempt.2 once).then fun _ _ => trivial

/-- The listeners of a gateway are patched in the version that was read. -/
theorem unfailing_syncExisting (calm : w.Calm) (found : w.gateways.get target = some existing) :
    (Sync.syncExisting target existing).Unfailing w := by
  refine Sync.syncExisting_elim target existing
    (K := fun a s => a = .ofRoutes w.routes.list target → s.Unfailing w)
    (fun _ rest => unfailing_collect_bind (rest _ rfl)) (fun _ _ _ => unfailing_remove found)
    (fun _ _ _ _ => trivial) fun a _ _ collected => ?_
  rw [collected]
  exact .request (perform_merge_listeners calm found (w.wanted target)) trivial

/-- A refresh makes no call that fails. -/
theorem unfailing_refresh (calm : w.Calm) : (Sync.refresh target).Unfailing w :=
  Sync.refresh_elim target (K := fun answer s => w.gateways.get target = answer → s.Unfailing w)
    (fun _ rest => unfailing_read_bind (rest _ rfl)) (fun _ => trivial)
    fun _ found => unfailing_syncExisting calm found

/-- A gateway is created under a key at which none was found. -/
theorem unfailing_create (config : Config) (settings : GatewaySettings) (calm : w.Calm)
    (missing : w.gateways.get target = none) :
    (Sync.create config target settings).Unfailing w := by
  refine Sync.create_elim config target settings
    (K := fun a s => a = .ofRoutes w.routes.list target → s.Unfailing w)
    (fun _ rest => unfailing_collect_bind (rest _ rfl)) (fun _ _ _ => trivial)
    fun a _ collected => ?_
  rw [collected]
  exact .request (perform_create_gateway calm missing) trivial

/-- Neither does ensuring a gateway, also when it is refused. -/
theorem unfailing_ensure (config : Config) (settings : GatewaySettings) (calm : w.Calm) :
    (Sync.ensure config target settings).Unfailing w :=
  Sync.ensure_elim config target settings
    (K := fun answer s => w.gateways.get target = answer → s.Unfailing w)
    (fun _ rest => unfailing_read_bind (rest _ rfl)) (unfailing_create config settings calm)
    (fun _ _ _ _ => trivial) fun _ _ found => unfailing_syncExisting calm found

-- =========================================================== the event

variable {config : Config} {key current : ObjectRef} {route : Route}

/-- Refreshes leave the cluster calm for the next. -/
theorem unfailing_refreshAll (targets : List ObjectRef) (calm : w.Calm) :
    (Reconcile.refreshAll targets).Unfailing w := by
  induction targets generalizing w with
  | nil => trivial
  | cons target rest ih =>
    exact (unfailing_refresh calm).bind (ends_calm calm) fun outcome mid calm' => ih calm'

theorem unfailing_leavePrevious (route : Route) (current : ObjectRef) (calm : w.Calm) :
    (Reconcile.leavePrevious route current).Unfailing w := by
  refine Reconcile.leavePrevious_elim route current (fun _ => trivial) fun previous _ => ?_
  exact (unfailing_attempt.2 (unfailing_refresh calm)).then fun _ _ => trivial

/-- An attempt that succeeds is the only one. -/
theorem unfailing_updating {act : Script StoreError Unit} (once : act.Unfailing w)
    (ends : act.Ends performs w fun result _ => result = .ok ()) :
    (Reconcile.updating config act).Unfailing w := by
  have first : (act.attempt : Script ReconcileError (Except StoreError Unit)).Ends performs w
      fun result _ => result = .ok (.ok ()) :=
    ends_attempt.2 (ends.mono fun result after ok => congrArg Except.ok ok)
  have only : ∀ left, (retryFrom (pure ()) act.attempt 1 left :
      Script ReconcileError (Except RetryError Unit)).Unfailing w := by
    intro left
    cases left with
    | zero =>
      refine (unfailing_attempt.2 once).bind first fun ended after ok => ?_
      cases ok
      trivial
    | succ left =>
      refine (unfailing_attempt.2 once).bind first fun ended after ok => ?_
      cases ok
      trivial
  rw [Reconcile.updating_eq]
  refine (only _).then fun retried after => ?_
  cases retried <;> trivial

/-- Routes can be read. -/
theorem unfailing_getRoute_bind {β : Type} {f : Option Route → Script StoreError β}
    (rest : (f (w.routes.get key)).Unfailing w) : (Routes.get key >>= f).Unfailing w :=
  ⟨⟨_, rfl⟩, rest⟩

/-- The finalizers of a route are patched in the version that was read. -/
theorem unfailing_merge_finalizers (calm : w.routes.Calm) (found : w.routes.get key = some route)
    (finalizers : List String) :
    (Routes.merge key (Reconcile.finalizersPatch route finalizers)).Unfailing w :=
  ⟨⟨_, congrArg Prod.fst (perform_merge_finalizers calm found finalizers)⟩, trivial⟩

theorem unfailing_addFinalizerOnce (calm : w.routes.Calm) :
    (Reconcile.addFinalizerOnce key).Unfailing w :=
  Reconcile.addFinalizerOnce_elim key
    (K := fun answer s => w.routes.get key = answer → s.Unfailing w)
    (fun _ rest => unfailing_getRoute_bind (rest _ rfl)) (fun _ => trivial)
    (fun _ _ _ => trivial) fun _ _ found =>
      (unfailing_merge_finalizers calm found _).then fun _ _ => trivial

theorem unfailing_removeFinalizerOnce (calm : w.routes.Calm) :
    (Reconcile.removeFinalizerOnce key).Unfailing w :=
  Reconcile.removeFinalizerOnce_elim key
    (K := fun answer s => w.routes.get key = answer → s.Unfailing w)
    (fun _ rest => unfailing_getRoute_bind (rest _ rfl)) (fun _ => trivial)
    (fun _ _ _ => trivial) fun _ _ found =>
      (unfailing_attempt.2 (unfailing_merge_finalizers calm found _)).then fun _ _ => trivial

/-- Bookkeeping can be applied to any route that is stored. -/
theorem unfailing_record (found : w.routes.get key = some route) :
    (Reconcile.record config key route current).Unfailing w := by
  refine Reconcile.record_elim config key route current (fun _ => trivial) fun _ => ?_
  have applied := perform_apply_bookkeeping found current config.fieldManager
  refine ⟨⟨_, congrArg Prod.fst applied⟩, ?_⟩
  show Unfailing _ (w.perform (.routes (.apply key _ config.fieldManager))).2
  rw [applied]
  trivial

theorem unfailing_finalize (calm : w.Calm) (found : w.routes.get key = some route)
    (managed : route.isManaged = true) : (Reconcile.finalize config key route).Unfailing w := by
  rw [Reconcile.finalize_eq]
  have refreshed := ends_refreshAll_exact (nodup_formerGateways route) calm
  refine (unfailing_mapError.2 (unfailing_refreshAll _ calm)).bind
    (P := fun _ mid => mid.Calm ∧ mid.routes = w.routes)
    (ends_mapError.2 (refreshed.mono fun _ _ left => ⟨left.2.1, left.2.2.1⟩)) fun _ mid left => ?_
  obtain ⟨calm', routes⟩ := left
  have found' : mid.routes.get key = some route := by rw [routes, found]
  have released := ends_removeFinalizerOnce_exact calm'.routes found' managed
  exact (unfailing_updating (unfailing_removeFinalizerOnce calm'.routes)
    (released.mono fun _ _ left => left.1)).then fun _ _ => trivial

/-- A live route is held, or recorded and then served. -/
theorem unfailing_serve (calm : w.Calm) (found : w.routes.get key = some route) :
    (Reconcile.serve config key route current).Unfailing w := by
  refine Reconcile.serve_elim config key route current (fun unmanaged => ?_) fun managed => ?_
  · have held := ends_addFinalizerOnce_exact calm.routes found unmanaged
    exact (unfailing_updating (unfailing_addFinalizerOnce calm.routes)
      (held.mono fun _ _ left => left.1)).then fun _ _ => trivial
  · refine (unfailing_record found).bind (ends_calm calm) fun _ recorded calm' => ?_
    exact (unfailing_mapError.2 (unfailing_ensure config _ calm')).then fun _ _ => trivial

theorem unfailing_attach (calm : w.Calm) (found : w.routes.get key = some route) :
    (Reconcile.attach config key route current).Unfailing w := by
  rw [attach_eq]
  refine (unfailing_leavePrevious route current calm).bind
    (ends_leavePrevious_exact route current calm) fun _ mid left => ?_
  obtain ⟨-, calm', routes, -⟩ := left
  exact unfailing_serve calm' (routes ▸ found)

/-- None of the ways through an event makes a call that fails. -/
theorem unfailing_handle (calm : w.Calm) (found : w.routes.get key = some route) :
    (Reconcile.handle config key route).Unfailing w :=
  Reconcile.handle_elim config key route (fun _ managed => unfailing_finalize calm found managed)
    (fun _ _ => trivial) (fun _ _ _ => trivial) (fun _ _ _ => trivial)
    fun _ _ _ _ => unfailing_attach calm found

/-- No call of an event fails in a calm cluster. -/
theorem unfailing_reconcile (config : Config) (key : ObjectRef) (calm : w.Calm) :
    (reconcile config key).Unfailing w := by
  unfold reconcile Routes.get
  rw [lift_store_event]
  refine .request rfl ?_
  cases found : w.routes.get key with
  | none => trivial
  | some route => exact unfailing_handle calm found

-- ============================================================= the run

/-- The gateway of the route is there, and its records disagree with what the
route asks for. -/
def Cluster.Forbids (config : Config) (w : Cluster) (key : ObjectRef)
    (violation : PolicyViolation) : Prop :=
  ∃ route current gateway, w.routes.get key = some route ∧ route.parent? = some current
    ∧ w.gateways.get current = some gateway
    ∧ gateway.check (route.settings.effective config) = .error violation

/-- A route is served well, or is forbidden. -/
theorem Cluster.serveResult_cases (config : Config) (found : w.routes.get key = some route)
    (parent : route.parent? = some current) :
    (∃ outcome, w.serveResult config route current = .ok outcome)
      ∨ ∃ violation, w.serveResult config route current = .error (.policy violation)
        ∧ w.Forbids config key violation := by
  unfold serveResult
  split
  · exact .inl ⟨_, rfl⟩
  · unfold Sync.ensureResult
    rw [Store.view]
    cases there : w.gateways.get current with
    | none => exact .inl ⟨_, rfl⟩
    | some gateway =>
      rw [Option.map_some]
      dsimp only
      rw [Object.check_unversioned]
      cases agrees : gateway.check (route.settings.effective config) with
      | error violation =>
        exact .inr ⟨violation, rfl, route, current, gateway, found, parent, there, agrees⟩
      | ok done => exact .inl ⟨_, rfl⟩

/-- An event ends well, or is forbidden. -/
theorem Cluster.eventResult_cases (config : Config) (found : w.routes.get key = some route) :
    (∃ outcome, w.eventResult config route = .ok outcome)
      ∨ ∃ violation, w.eventResult config route = .error (.policy violation)
        ∧ w.Forbids config key violation := by
  unfold eventResult
  split
  · exact .inl ⟨_, rfl⟩
  · split
    · exact .inl ⟨_, rfl⟩
    · split
      · exact .inl ⟨_, rfl⟩
      · cases parent : route.parent? with
        | none => exact .inl ⟨_, rfl⟩
        | some current => exact w.serveResult_cases config found parent

/-- In a calm cluster an event ends well unless the records of its gateway forbid
it. None of its calls fails, and a gateway that is refreshed at any moment of it
is refreshed without an error. -/
theorem undisturbed_event_fails_by_policy_only (config : Config) {w : Cluster} {key : ObjectRef}
    (calm : w.Calm) (filed : ∀ route, w.routes.get key = some route → route.ref = key) :
    let run := (reconcile config key).run w
    ((∃ outcome, run.result = .ok outcome)
        ∨ ∃ violation, run.result = .error (.policy violation)
          ∧ w.Forbids config key violation)
      ∧ ∀ m ∈ run.moments, ¬ m.Failed
        ∧ ∀ target, ∃ outcome, ((Sync.refresh target).run m.met).result = .ok outcome := by
  intro run
  refine ⟨?_, fun m member => ?_⟩
  · have ended := (attended_run config calm filed).2
    cases found : w.routes.get key with
    | none =>
      rw [found] at ended
      exact .inl ⟨_, ended⟩
    | some route =>
      rw [found] at ended
      rw [show run.result = w.eventResult config route from ended]
      exact w.eventResult_cases config found
  · obtain ⟨unfailed, calm'⟩ := (unfailing_reconcile config key calm).run calm m member
    refine ⟨unfailed, fun target => ?_⟩
    exact (run_of_unplanned calm'.unplanned (ends_refresh_yields calm')).1

/-- A route has moved to a gateway that records another issuer than it asks for. -/
def disputed : Cluster where
  routes := { objects := .ofList [
    (⟨"apps", "web"⟩,
      Route.optedIn ⟨"apps", "web"⟩ ⟨"infra", "new"⟩ "a.example.com"
        [(AnnotationKey.reconciled, "true"), (AnnotationKey.previousGateway, "infra/old")]
        [finalizer])] }
  gateways := { objects := .ofList [
    (⟨"infra", "old"⟩, recording ⟨"infra", "old"⟩ "internpki"),
    (⟨"infra", "new"⟩, recording ⟨"infra", "new"⟩ "letsencrypt")] }
where
  recording (target : ObjectRef) (issuer : String) : Gateway :=
    Gateway.recording target ⟨issuer, "hnet-private"⟩ "eg" [.https "a.example.com" "infra"]

/-- The route leaves its old gateway and its bookkeeping is written, all without a
failing call, before the event is forbidden. -/
theorem disputed_event_is_forbidden :
    let run := (reconcile .standard ⟨"apps", "web"⟩).run disputed
    (∃ violation, run.result = .error (.policy violation)
        ∧ disputed.Forbids .standard ⟨"apps", "web"⟩ violation)
      ∧ run.cluster.gateways.get ⟨"infra", "old"⟩ = none
      ∧ ∀ m ∈ run.moments, ¬ m.Failed := by
  intro run
  have filed : ∀ route, disputed.routes.get ⟨"apps", "web"⟩ = some route →
      route.ref = ⟨"apps", "web"⟩ := by
    intro route found
    cases found
    rfl
  obtain ⟨ended, unfailing⟩ := undisturbed_event_fails_by_policy_only .standard
    (w := disputed) ⟨fun _ => rfl, ⟨rfl, rfl, rfl⟩, ⟨rfl, rfl, rfl⟩⟩ filed
  have rejected : ∀ outcome, run.result ≠ .ok outcome := by
    have failed : run.result.isOk = false := by decide +kernel
    intro outcome ok
    rw [ok] at failed
    cases failed
  refine ⟨ended.resolve_left fun ⟨outcome, ok⟩ => rejected outcome ok, by decide +kernel, ?_⟩
  exact fun m member => (unfailing m member).1

end SharedGateway
