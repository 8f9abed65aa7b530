/-
What an event does, exactly.

# Tasks

In a calm cluster each gateway gets one task from the event: it is left alone,
refreshed or ensured (`Object.task`), and the route of the event gets at most one
write (`Object.aftermath`). Which tasks are given depends on the route alone; what a
task makes of its gateway depends on that gateway and on what the routes want of it
(`Task.make`). So an event is known gateway by gateway, and how it ends is known as
well (`Cluster.eventResult`): by the gateway that is ensured, if there is one.
`Handles` is all of this, and every way through an event has it
(`ends_handle_exact`).

That the tasks do not get into each other's way rests on three facts. No gateway is
given two of them, for none is listed twice and a gateway that is left is not the
present one. A task does not touch the routes. And the write to the route changes
nothing about what the routes want, so it does not matter that it stands between the
tasks.

# Attempts

An update that succeeds at once is not repeated (`ends_updating_once`), and in a calm
cluster it does: the patch states the version that was read.

# The run

`attended_run` puts the description into the form that repeated and swapped events
are compared in: the cluster after an event as a function of the cluster before it,
gateway by gateway and route by route, versions left out of account. There is no
longer a call in it.
-/
import SharedGateway.Proofs.CalmEvent
import SharedGateway.Proofs.ExactSync

namespace SharedGateway

open Cluster (performs Yields)
open Script

-- ============================================================== writes

/-- One route is as said but for its version, and no gateway has changed. -/
structure Cluster.Rewrites (w after : Cluster) (key : ObjectRef) (route : Option Route) :
    Prop where
  calm : after.Calm
  gateways : after.gateways = w.gateways
  own : after.routes.view key = route.map Object.unversioned

open Cluster (Rewrites)

variable {config : Config} {w : Cluster} {key target : ObjectRef} {route : Route}

theorem Cluster.Rewrites.refl (calm : w.Calm) (found : w.routes.get key = some route) :
    Rewrites w w key (some route) := by
  refine ⟨calm, rfl, ?_⟩
  rw [Store.view, found]

/-- A route that is replaced is as said, or gone if it is released. -/
theorem rewrites_replace (calm : w.Calm) (key : ObjectRef) (o : Route) :
    Rewrites w { w with routes := w.routes.replace key o } key (Store.kept o) := by
  refine ⟨⟨calm.unplanned, calm.routes.replace key o, calm.gateways⟩, rfl, ?_⟩
  rw [Store.view_replace, if_pos rfl]

/-- A patch of the finalizers of a route as it was read succeeds. -/
theorem perform_merge_finalizers (calm : w.routes.Calm) (found : w.routes.get key = some route)
    (finalizers : List String) :
    w.perform (.routes (.merge key (Reconcile.finalizersPatch route finalizers)))
      = (.ok (w.routes.stamped (route.refinalized finalizers route.resourceVersion)),
        { w with routes :=
          w.routes.replace key (route.refinalized finalizers route.resourceVersion) }) := by
  show ((w.routes.merge key _).1, { w with routes := (w.routes.merge key _).2 }) = _
  rw [calm.merge_eq found (versionOfPatch?_finalizersPatch route finalizers)
    (ofJson?_finalizersPatch route finalizers)]

-- ============================================================= attempts

section Attempts

variable {after : Cluster} {finalizers : List String}
  {reply : Call.Reply (.routes (.merge key (Reconcile.finalizersPatch route finalizers)))}

/-- An attempt at holding a route ends as its patch does. -/
theorem ends_addFinalizerOnce_merged (found : w.routes.get key = some route)
    (unmanaged : route.isManaged = false) (appended : finalizers = route.finalizers ++ [finalizer])
    (merged : w.perform (.routes (.merge key (Reconcile.finalizersPatch route finalizers)))
      = (reply, after)) :
    (Reconcile.addFinalizerOnce key).Ends performs w fun result left =>
      result = reply.map (fun _ => ()) ∧ left = after := by
  subst appended
  refine ends_addFinalizerOnce_of nofun (fun missing => nomatch found.symm.trans missing)
    (fun known found' managed => ?_) fun known found' _ => ?_
  · cases found.symm.trans found'
    cases unmanaged.symm.trans managed
  · cases found.symm.trans found'
    rw [ends_request_performs, merged]
    exact ⟨rfl, rfl⟩

/-- So does an attempt at letting it go, unless the route is reported gone. -/
theorem ends_removeFinalizerOnce_merged (found : w.routes.get key = some route)
    (managed : route.isManaged = true) (freed : finalizers = Reconcile.released route.finalizers)
    (merged : w.perform (.routes (.merge key (Reconcile.finalizersPatch route finalizers)))
      = (reply, after))
    (there : ∀ e, reply = .error e → e.isNotFound = false) :
    (Reconcile.removeFinalizerOnce key).Ends performs w fun result left =>
      result = reply.map (fun _ => ()) ∧ left = after := by
  subst freed
  refine ends_removeFinalizerOnce_of nofun (fun missing => nomatch found.symm.trans missing)
    (fun known found' unmanaged => ?_) fun known found' _ => ?_
  · cases found.symm.trans found'
    cases managed.symm.trans unmanaged
  · cases found.symm.trans found'
    rw [ends_request_performs, merged]
    refine ⟨?_, rfl⟩
    cases reply with
    | ok written => rfl
    | error e =>
      rw [Reconcile.letGo, there e rfl]
      rfl

end Attempts

/-- An attempt at holding a route writes it once. -/
theorem ends_addFinalizerOnce_exact (calm : w.routes.Calm)
    (found : w.routes.get key = some route) (unmanaged : route.isManaged = false) :
    (Reconcile.addFinalizerOnce key).Ends performs w fun result after =>
      let held := route.refinalized (route.finalizers ++ [finalizer]) route.resourceVersion
      result = .ok () ∧ after = { w with routes := w.routes.replace key held } :=
  ends_addFinalizerOnce_merged found unmanaged rfl (perform_merge_finalizers calm found _)

/-- So does an attempt at letting it go. -/
theorem ends_removeFinalizerOnce_exact (calm : w.routes.Calm)
    (found : w.routes.get key = some route) (managed : route.isManaged = true) :
    (Reconcile.removeFinalizerOnce key).Ends performs w fun result after =>
      let freed := route.refinalized (Reconcile.released route.finalizers) route.resourceVersion
      result = .ok () ∧ after = { w with routes := w.routes.replace key freed } :=
  ends_removeFinalizerOnce_merged found managed rfl (perform_merge_finalizers calm found _) nofun

-- ============================================================= retrying

/-- An attempt that succeeds is the only one. -/
theorem ends_retryFrom_once {ε : Type} {answering : Answering} {act : Script StoreError Unit}
    {P : Cluster → Prop} (wait : Script ε Unit)
    (ends : act.Ends answering w fun result after => result = .ok () ∧ P after)
    (attempt left : Nat) :
    (retryFrom wait act.attempt attempt left).Ends answering w fun result after =>
      result = .ok (.ok ()) ∧ P after := by
  cases left with
  | zero =>
    refine ends_bind.2 (ends_attempt.2 (ends.mono fun ended after left => ?_))
    obtain ⟨rfl, holds⟩ := left
    exact ⟨rfl, holds⟩
  | succ left =>
    refine ends_bind.2 (ends_attempt.2 (ends.mono fun ended after left => ?_))
    obtain ⟨rfl, holds⟩ := left
    exact ⟨rfl, holds⟩

/-- An update that succeeds at once ends as its one attempt does. -/
theorem ends_updating_once {answering : Answering} {act : Script StoreError Unit}
    {P : Cluster → Prop} (config : Config)
    (ends : act.Ends answering w fun result after => result = .ok () ∧ P after) :
    (Reconcile.updating config act).Ends answering w
      fun result after => result = .ok () ∧ P after := by
  rw [Reconcile.updating_eq]
  refine (ends_retryFrom_once _ ends 1 _).bind (fun retried after left => ?_)
    fun e after left => nomatch left.1
  obtain ⟨ok, holds⟩ := left
  cases ok
  exact ⟨rfl, holds⟩

/-- Holding a route succeeds. -/
theorem ends_addFinalizer_exact (config : Config) (calm : w.Calm)
    (found : w.routes.get key = some route) (unmanaged : route.isManaged = false) :
    (Reconcile.updating config (Reconcile.addFinalizerOnce key)).Ends performs w
      fun result after => result = .ok () ∧ Rewrites w after key (Store.kept
        (route.refinalized (route.finalizers ++ [finalizer]) route.resourceVersion)) := by
  refine ends_updating_once config ?_
  refine (ends_addFinalizerOnce_exact calm.routes found unmanaged).mono fun result after held => ?_
  obtain ⟨ok, rfl⟩ := held
  exact ⟨ok, rewrites_replace calm key _⟩

/-- Letting a route go succeeds; it is gone if nothing else holds it. -/
theorem ends_removeFinalizer_exact (config : Config) (calm : w.Calm)
    (found : w.routes.get key = some route) (managed : route.isManaged = true) :
    (Reconcile.updating config (Reconcile.removeFinalizerOnce key)).Ends performs w
      fun result after => result = .ok () ∧ Rewrites w after key (Store.kept
        (route.refinalized (Reconcile.released route.finalizers) route.resourceVersion)) := by
  refine ends_updating_once config ?_
  refine (ends_removeFinalizerOnce_exact calm.routes found managed).mono
    fun result after released => ?_
  obtain ⟨ok, rfl⟩ := released
  exact ⟨ok, rewrites_replace calm key _⟩

-- =============================================================== tasks

/-- What an event does for one gateway. -/
inductive Task where
  | leave
  | refresh
  | ensure (settings : GatewaySettings)

/-- What a task makes of a gateway of which those listeners are wanted. -/
def Task.make (config : Config) (target : ObjectRef) (want : List Listener) :
    Task → Option Gateway → Option Gateway
  | .leave, gateway => gateway
  | .refresh, gateway => Sync.refreshed want gateway
  | .ensure settings, gateway => Sync.ensured config target settings want gateway

/-- What the event of a route does for a gateway. -/
def Object.task (config : Config) (route : Route) (target : ObjectRef) : Task :=
  if route.isDeleting && route.isManaged then
    if target ∈ Reconcile.formerGateways route then .refresh else .leave
  else if !route.settings.enabled || route.isDeleting then .leave
  else
    match route.parent? with
    | none => .leave
    | some current =>
      if Reconcile.leftGateway? route current = some target then .refresh
      else if target = current && route.isManaged then .ensure (route.settings.effective config)
      else .leave

/-- What serving a route leaves of it. -/
def Object.served (key : ObjectRef) (route : Route) (current : ObjectRef) : Option Route :=
  if !route.isManaged then
    Store.kept (route.refinalized (route.finalizers ++ [finalizer]) route.resourceVersion)
  else if Reconcile.isRecorded route current then some route
  else Store.kept (route.recorded key current)

/-- A route that has been served is held. -/
theorem Object.isManaged_of_served {route' : Route} {current : ObjectRef}
    (served : route.served key current = some route') : route'.isManaged = true := by
  unfold Object.served at served
  cases managed : route.isManaged with
  | false =>
    rw [managed] at served
    cases Store.kept_eq_some served
    simp [Object.isManaged, Object.refinalized, Object.finalizers, Metadata.finalizerList]
  | true =>
    rw [managed, if_neg (by decide)] at served
    split at served
    · exact Option.some.inj served ▸ managed
    · cases Store.kept_eq_some served
      exact managed

/-- What the event of a route leaves of the route. -/
def Object.aftermath (key : ObjectRef) (route : Route) : Option Route :=
  if route.isDeleting && route.isManaged then
    Store.kept (route.refinalized (Reconcile.released route.finalizers) route.resourceVersion)
  else if !route.settings.enabled || route.isDeleting then some route
  else
    match route.parent? with
    | none => some route
    | some current => route.served key current

namespace Cluster

/-- How serving a route ends. -/
def serveResult (config : Config) (w : Cluster) (route : Route) (current : ObjectRef) :
    Except ReconcileError Outcome :=
  if !route.isManaged then .ok .finalizerAdded
  else
    match Sync.ensureResult (route.settings.effective config) (w.wanted current)
      (w.gateways.view current) with
    | .error e => .error (.ofSync e)
    | .ok outcome => .ok (.synced outcome)

/-- How the event of a route ends. -/
def eventResult (config : Config) (w : Cluster) (route : Route) :
    Except ReconcileError Outcome :=
  if route.isDeleting && route.isManaged then .ok .finalized
  else if !route.settings.enabled then .ok .disabled
  else if route.isDeleting then .ok .finalized
  else
    match route.parent? with
    | none => .ok .noParentRef
    | some current => w.serveResult config route current

/-- The event did its tasks and its write, and ended as it had to. -/
structure Handles (config : Config) (key : ObjectRef) (route : Route) (w : Cluster)
    (result : Except ReconcileError Outcome) (after : Cluster) : Prop where
  calm : after.Calm
  result : result = w.eventResult config route
  own : after.routes.view key = (route.aftermath key).map Object.unversioned
  gateways : ∀ target, after.gateways.view target
    = (route.task config target).make config target (w.wanted target) (w.gateways.view target)

end Cluster

open Cluster (Handles)

-- ============================================================ refreshes

/-- A gateway becomes what a sync makes of it, and no other changes. -/
theorem Cluster.Yields.view {made : Option Gateway} {after : Cluster}
    (h : Yields w after target made) (other : ObjectRef) :
    after.gateways.view other = if other = target then made else w.gateways.view other := by
  by_cases same : other = target
  · rw [if_pos same, same, h.target]
  · rw [if_neg same, h.others other same]

/-- Gateways that are refreshed in turn become what a refresh makes of each: none
of them stands twice, so an earlier one changes nothing for a later one. -/
theorem ends_refreshAll_exact {targets : List ObjectRef} (nodup : targets.Nodup)
    (calm : w.Calm) :
    (Reconcile.refreshAll targets).Ends performs w fun result after =>
      result = .ok () ∧ after.Calm ∧ after.routes = w.routes
        ∧ ∀ target, after.gateways.view target
          = if target ∈ targets then
              Sync.refreshed (w.wanted target) (w.gateways.view target)
            else w.gateways.view target := by
  induction targets generalizing w with
  | nil => exact ⟨rfl, calm, rfl, fun target => (if_neg List.not_mem_nil).symm⟩
  | cons first rest ih =>
    obtain ⟨fresh, nodup⟩ := List.nodup_cons.1 nodup
    rw [Reconcile.refreshAll_cons]
    refine (ends_refresh_yields calm).bind (fun outcome mid refreshed => ?_)
      fun e after refreshed => ?_
    · obtain ⟨-, yields⟩ := refreshed
      refine (ih nodup yields.calm).mono fun result after later => ?_
      obtain ⟨ok, calm', routes, views⟩ := later
      refine ⟨ok, calm', routes.trans yields.routes, fun target => ?_⟩
      rw [views, yields.view, Cluster.wanted_of_routes yields.routes]
      by_cases same : target = first
      · subst same
        rw [if_neg fresh, if_pos rfl, if_pos List.mem_cons_self]
      · rw [if_neg same]
        simp only [List.mem_cons, same, false_or]
    · obtain ⟨⟨outcome, ok⟩, -⟩ := refreshed
      cases ok

-- ============================================================ the event

/-- A deleting route is let go once every gateway that it used is refreshed. -/
theorem ends_finalize_exact (config : Config) (calm : w.Calm)
    (found : w.routes.get key = some route) (deleting : route.isDeleting = true)
    (managed : route.isManaged = true) :
    (Reconcile.finalize config key route).Ends performs w (Handles config key route w) := by
  have finalizing : (route.isDeleting && route.isManaged) = true := by rw [deleting, managed]; rfl
  rw [Reconcile.finalize_eq, ends_bind, ends_mapError]
  refine (ends_refreshAll_exact (nodup_formerGateways route) calm).mono fun result mid left => ?_
  obtain ⟨rfl, calm', routes, refreshed⟩ := left
  have held : mid.routes.get key = some route := by rw [routes, found]
  refine (ends_removeFinalizer_exact config calm' held managed).bind
    (fun _ after released => ?_) fun e after released => nomatch released.1
  obtain ⟨-, written⟩ := released
  refine ⟨written.calm, ?_, ?_, fun target => ?_⟩
  · rw [Cluster.eventResult, if_pos finalizing]
  · rw [written.own, Object.aftermath, if_pos finalizing]
  · rw [written.gateways, refreshed, Object.task, if_pos finalizing]
    split <;> rfl

variable {current : ObjectRef}

/-- The former gateway becomes what a refresh makes of it, and no other changes. -/
theorem ends_leavePrevious_exact (route : Route) (current : ObjectRef) (calm : w.Calm) :
    (Reconcile.leavePrevious route current).Ends performs w fun result after =>
      result = .ok () ∧ after.Calm ∧ after.routes = w.routes
        ∧ ∀ target, after.gateways.view target
          = if Reconcile.leftGateway? route current = some target then
              Sync.refreshed (w.wanted target) (w.gateways.view target)
            else w.gateways.view target := by
  refine ends_leavePrevious_of (fun stays => ?_) fun previous leaves => ?_
  · rw [stays]
    exact ⟨rfl, calm, rfl, fun target => rfl⟩
  · rw [leaves]
    refine (ends_refresh_yields calm).mono fun result after ⟨_, yields⟩ => ?_
    refine ⟨rfl, yields.calm, yields.routes, fun target => ?_⟩
    rw [yields.view]
    by_cases same : target = previous
    · rw [if_pos same, if_pos (congrArg some same.symm), same]
    · rw [if_neg same, if_neg (mt Option.some.inj (Ne.symm same))]

/-- Recording a gateway succeeds. -/
theorem ends_record_exact (config : Config) (current : ObjectRef) (calm : w.Calm)
    (found : w.routes.get key = some route) :
    (Reconcile.record config key route current).Ends performs w fun result after =>
      result = .ok () ∧ Rewrites w after key
        (if Reconcile.isRecorded route current then some route
          else Store.kept (route.recorded key current)) := by
  refine ends_record_of (fun recorded => ?_) fun unrecorded => ?_
  · rw [if_pos recorded]
    exact ⟨rfl, .refl calm found⟩
  · rw [if_neg (Bool.eq_false_iff.1 unrecorded), ends_request_performs,
      perform_apply_bookkeeping found]
    exact ⟨rfl, rewrites_replace calm key _⟩

/-- Ensuring a gateway is the task of that name, and leaves the others. -/
theorem ends_ensure_exact (config : Config) (settings : GatewaySettings) (calm : w.Calm) :
    (Sync.ensure config current settings).Ends performs w fun result after =>
      result = Sync.ensureResult settings (w.wanted current) (w.gateways.view current)
        ∧ after.Calm ∧ after.routes = w.routes
        ∧ ∀ target, after.gateways.view target
          = (if target = current then Task.ensure settings else .leave).make config target
              (w.wanted target) (w.gateways.view target) := by
  refine (ends_ensure_yields config settings calm).mono fun result after ⟨ended, yields⟩ => ?_
  refine ⟨ended, yields.calm, yields.routes, fun target => ?_⟩
  rw [yields.view]
  by_cases same : target = current
  · subst same
    rw [if_pos rfl, if_pos rfl]
    rfl
  · rw [if_neg same, if_neg same]
    rfl

/-- A live route is held, or it is recorded and then its gateway is ensured. -/
theorem ends_serve_exact (config : Config) (calm : w.Calm)
    (found : w.routes.get key = some route) (filed : route.ref = key)
    (live : route.isDeleting = false) (current : ObjectRef) :
    (Reconcile.serve config key route current).Ends performs w fun result after =>
      after.Calm ∧ result = w.serveResult config route current
        ∧ after.routes.view key = (route.served key current).map Object.unversioned
        ∧ ∀ target, after.gateways.view target
          = (if target = current && route.isManaged then
                Task.ensure (route.settings.effective config)
              else .leave).make config target (w.wanted target) (w.gateways.view target) := by
  unfold Object.served Cluster.serveResult
  refine Reconcile.serve_elim config key route current (fun managed => ?unmanaged)
    fun managed => ?managed
  case unmanaged =>
    rw [managed]
    simp only [Bool.not_false, if_true, Bool.and_false]
    refine (ends_addFinalizer_exact config calm found managed).bind
      (fun _ after held => ?_) fun e after held => nomatch held.1
    obtain ⟨-, written⟩ := held
    refine ⟨written.calm, rfl, written.own, fun target => ?_⟩
    rw [written.gateways]
    rfl
  case managed =>
    rw [managed]
    simp only [Bool.not_true, Bool.false_eq_true, if_false, Bool.and_true, decide_eq_true_eq]
    refine ((ends_performs (ends_record config found filed live)).and
      (ends_record_exact config current calm found)).bind
      (fun _ recorded ⟨⟨records, _⟩, _, written⟩ => ?_)
      fun e recorded ⟨_, ok, _⟩ => nomatch ok
    -- what the routes want is not changed by writing the bookkeeping
    have wanted : ∀ target, recorded.wanted target = w.wanted target := by
      refine (records.keepsRoutes found).wanted_eq fun _ _ _ => ?_
      obtain ⟨route', found', -⟩ := records.route
      exact ⟨route', found'⟩
    rw [ends_bind, ends_mapError]
    refine (ends_ensure_exact config (route.settings.effective config) written.calm).mono
      fun result after ⟨ended, calm', routes, views⟩ => ?_
    rw [written.gateways, wanted] at ended
    have own : after.routes.view key = recorded.routes.view key := by rw [routes]
    have views : ∀ target, after.gateways.view target
        = (if target = current then Task.ensure (route.settings.effective config)
            else .leave).make config target (w.wanted target) (w.gateways.view target) :=
      fun target => by rw [views, written.gateways, wanted]
    rw [← ended]
    cases result with
    | ok outcome => exact ⟨calm', rfl, own.trans written.own, views⟩
    | error e => exact ⟨calm', rfl, own.trans written.own, views⟩

/-- A live route has its tasks and its write done in turn. -/
theorem ends_attach_exact (config : Config) (calm : w.Calm)
    (found : w.routes.get key = some route) (filed : route.ref = key)
    (live : route.isDeleting = false) (enabled : route.settings.enabled = true)
    (parent : route.parent? = some current) :
    (Reconcile.attach config key route current).Ends performs w (Handles config key route w) := by
  rw [attach_eq]
  refine (ends_leavePrevious_exact route current calm).bind
    (fun _ mid ⟨_, calm', routes, left⟩ => ?_) fun e mid ⟨ok, _⟩ => nomatch ok
  have held : mid.routes.get key = some route := by rw [routes, found]
  -- the gateway that is left is another one
  have stays : mid.gateways.view current = w.gateways.view current := by
    rw [left, if_neg fun leaving => (leftGateway?_eq_some leaving).1 rfl]
  refine (ends_serve_exact config calm' held filed live current).mono fun result after served => ?_
  obtain ⟨calm'', ended, own, views⟩ := served
  refine ⟨calm'', ?_, ?_, fun target => ?_⟩
  · rw [ended, Cluster.eventResult, live, enabled, parent, Cluster.serveResult,
      Cluster.wanted_of_routes routes, stays]
    rfl
  · rw [own, Object.aftermath, live, enabled, parent]
    rfl
  · have task : route.task config target
        = if Reconcile.leftGateway? route current = some target then .refresh
          else if target = current && route.isManaged then
            .ensure (route.settings.effective config)
          else .leave := by
      rw [Object.task, live, enabled, parent]
      rfl
    rw [views, left, task, Cluster.wanted_of_routes routes]
    by_cases leaving : Reconcile.leftGateway? route current = some target
    · have differ : ¬ target = current := (leftGateway?_eq_some leaving).1
      rw [if_pos leaving, if_pos leaving]
      simp only [differ, decide_false, Bool.false_and, Bool.false_eq_true, if_false, Task.make]
    · rw [if_neg leaving, if_neg leaving]

/-- An event that passes over its route writes nothing. -/
theorem ends_idle {outcome : Outcome} (calm : w.Calm) (found : w.routes.get key = some route)
    (ended : w.eventResult config route = .ok outcome)
    (unfinalizing : (route.isDeleting && route.isManaged) = false)
    (idle : (!route.settings.enabled || route.isDeleting) = true ∨ route.parent? = none) :
    (pure outcome : Script ReconcileError Outcome).Ends performs w
      (Handles config key route w) := by
  refine ⟨calm, ended.symm, ?_, fun target => ?_⟩
  · rw [Store.view, found, Object.aftermath, unfinalizing]
    obtain idle | detached := idle
    · rw [idle]
      rfl
    · rw [detached, if_neg (by decide), ite_self]
  · rw [Object.task, unfinalizing]
    obtain idle | detached := idle
    · rw [idle]
      rfl
    · rw [detached, if_neg (by decide), ite_self]
      rfl

/-- An event of a stored route does its tasks and its write. -/
theorem ends_handle_exact (config : Config) (calm : w.Calm)
    (found : w.routes.get key = some route) (filed : route.ref = key) :
    (Reconcile.handle config key route).Ends performs w (Handles config key route w) := by
  refine Reconcile.handle_elim config key route (fun deleting managed => ?finalizing)
    (fun unfinalizing disabled => ?disabled) (fun deleting unmanaged enabled => ?released)
    (fun live enabled parent => ?unattached) fun current live enabled parent => ?attached
  case finalizing => exact ends_finalize_exact config calm found deleting managed
  case disabled =>
    have ended : w.eventResult config route = .ok .disabled := by
      rw [Cluster.eventResult, unfinalizing, disabled]
      rfl
    exact ends_idle calm found ended unfinalizing (.inl (by rw [disabled]; rfl))
  case released =>
    have ended : w.eventResult config route = .ok .finalized := by
      rw [Cluster.eventResult, unmanaged, enabled, deleting]
      rfl
    exact ends_idle calm found ended (by rw [unmanaged, Bool.and_false])
      (.inl (by rw [deleting, Bool.or_true]))
  case unattached =>
    have ended : w.eventResult config route = .ok .noParentRef := by
      rw [Cluster.eventResult, enabled, live, parent]
      rfl
    exact ends_idle calm found ended (by rw [live, Bool.false_and]) (.inr parent)
  case attached => exact ends_attach_exact config calm found filed live enabled parent

/-- An event finds no route and does nothing, or does its tasks and its write. -/
theorem ends_reconcile_exact (config : Config) (calm : w.Calm)
    (filed : ∀ route, w.routes.get key = some route → route.ref = key) :
    (reconcile config key).Ends performs w fun result after =>
      (w.routes.get key = none ∧ result = .ok .notFound ∧ after = w)
        ∨ ∃ route, w.routes.get key = some route ∧ Handles config key route w result after := by
  refine ends_reconcile_of_handle (fun missing => .inl ⟨missing, rfl, rfl⟩)
    (fun route found => ?_) nofun
  refine (ends_handle_exact config calm found (filed route found)).mono
    fun result after handles => ?_
  exact .inr ⟨route, found, handles⟩

-- ============================================================= the run

/-- What the routes want is not changed by an event. -/
theorem Cluster.Effect.wanted_eq {w after : Cluster} {key : ObjectRef} {route : Route}
    (effect : Effect config key route w after) (found : w.routes.get key = some route)
    (calm : w.routes.Calm) (target : ObjectRef) : after.wanted target = w.wanted target := by
  cases effect with
  | nothing same => rw [same]
  | finalized mid deleting managed left written =>
    have kept := (written.calm (left.routes ▸ calm)).2
    exact (written.keepsRoutes.wanted_eq kept target).trans (wanted_of_routes left.routes target)
  | held mid current live enabled parent unmanaged left written =>
    have kept := (written.calm (left.routes ▸ calm)).2
    exact (written.keepsRoutes.wanted_eq kept target).trans (wanted_of_routes left.routes target)
  | served mid recorded current live enabled parent managed left written ensured =>
    have found' : mid.routes.get key = some route := by rw [left.routes, found]
    have kept : recorded.wanted target = mid.wanted target := by
      refine (written.keepsRoutes found').wanted_eq (fun _ _ _ => ?_) target
      obtain ⟨route', found'', -⟩ := written.route
      exact ⟨route', found''⟩
    exact (ensured.wanted target).trans (kept.trans (wanted_of_routes left.routes target))

namespace Cluster

/-- What the event under the key does for a gateway. -/
def task (config : Config) (w : Cluster) (key target : ObjectRef) : Task :=
  match w.routes.get key with
  | none => .leave
  | some route => route.task config target

/-- What an event leaves, whether there is a route for it or not. -/
structure Attended (config : Config) (key : ObjectRef) (w after : Cluster) : Prop where
  calm : after.Calm
  keeps : KeepsRoutes w after key
  own : after.routes.view key = (w.routes.get key).bind fun route =>
    (route.aftermath key).map Object.unversioned
  gateways : ∀ target, after.gateways.view target
    = (w.task config key target).make config target (w.wanted target) (w.gateways.view target)
  wanted : ∀ target, after.wanted target = w.wanted target

end Cluster

open Cluster (Attended)

/-- What an event leaves in a calm cluster, and how it ends if there is a route
for it. -/
theorem attended_run {w : Cluster} {key : ObjectRef} (config : Config) (calm : w.Calm)
    (filed : ∀ route, w.routes.get key = some route → route.ref = key) :
    Attended config key w ((reconcile config key).run w).cluster
      ∧ ((reconcile config key).run w).result
        = match w.routes.get key with
          | none => .ok .notFound
          | some route => w.eventResult config route := by
  have exact_ends := ends_reconcile_exact config calm filed
  have effects := ends_performs (ends_reconcile config w key filed)
  -- one run, described exactly by the one judgment and bounded by the other
  obtain ⟨handled, effect⟩ := run_of_unplanned calm.unplanned (exact_ends.and effects)
  generalize (reconcile config key).run w = run at handled effect
  obtain ⟨missing, ended, same⟩ | ⟨route, found, handles⟩ := handled
  · rw [same, missing]
    refine ⟨⟨calm, .refl w key, ?_, fun target => ?_, fun _ => rfl⟩, ended⟩
    · rw [Store.view, missing]
      rfl
    · rw [Cluster.task, missing]
      rfl
  · have changes : Cluster.KeepsRoutes w run.cluster key
        ∧ ∀ target, run.cluster.wanted target = w.wanted target := by
      obtain same | ⟨known, found', effect⟩ := effect
      · rw [same]
        exact ⟨.refl w key, fun _ => rfl⟩
      · exact ⟨effect.keepsRoutes found', effect.wanted_eq found' calm.routes⟩
    refine ⟨⟨handles.calm, changes.1, ?_, fun target => ?_, changes.2⟩, ?_⟩
    · rw [handles.own, found]
      rfl
    · rw [handles.gateways, Cluster.task, found]
    · rw [handles.result, found]

end SharedGateway
