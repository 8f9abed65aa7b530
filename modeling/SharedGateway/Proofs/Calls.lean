/-
Which calls the operator can make at all.

# A bound on what may be called

`Script.Makes P` states that every call of the script satisfies `P`, whatever its
calls are answered with. It looks at no cluster: a script is a tree that branches at
each reply, and the predicate is about all nodes. So what it states holds at every
moment of every run, after a failure of any call and among any writes of others
(`Makes.moments`). It passes through sequences, attempts and repetitions, and each
operation gets one lemma from its elimination rule; callers never look inside.

# What the operator does to gateways

Gateways are only ever written in three ways, whichever operation it is: one is
created from the settings that it is for, one gets new listeners, one is deleted
(`Call.Permitted`). Only the first depends on the event: the settings and the key
must have been asked for, and within an event there is one gateway that they are
asked for, that of the route's parent, with the settings of that route
(`makes_handle`).

The route itself is what the first call of the event is answered with. So what an
event may ask for is told from that answer alone, and the last lemma puts the two
together (`permitted_reconcile`): the form in which the history of a gateway and the
migration of a route use it.
-/
import SharedGateway.Cluster.Run
import SharedGateway.Proofs.Operations

namespace SharedGateway

variable {ε ε' α β : Type}

-- ================================================================ calls

namespace Script

variable {P : Call → Prop} {s : Script ε α} {f : α → Script ε β}

/-- Every call that the script may come to make satisfies the predicate. -/
def Makes (P : Call → Prop) : Script ε α → Prop
  | .done _ => True
  | .call c next => P c ∧ ∀ reply, (next reply).Makes P

/-- A sequence makes the calls of both its parts. -/
theorem Makes.bind (first : s.Makes P) (rest : ∀ a, (f a).Makes P) : (s >>= f).Makes P := by
  induction s with
  | done result =>
    cases result with
    | ok a => exact rest a
    | error e => trivial
  | call c next ih => exact ⟨first.1, fun reply => ih reply (first.2 reply)⟩

theorem Makes.mapError (h : s.Makes P) (g : ε → ε') : (s.mapError g).Makes P := by
  induction s with
  | done result => trivial
  | call c next ih => exact ⟨h.1, fun reply => ih reply (h.2 reply)⟩

theorem Makes.attempt (h : s.Makes P) : (s.attempt : Script ε' (Except ε α)).Makes P := by
  induction s with
  | done result => trivial
  | call c next ih => exact ⟨h.1, fun reply => ih reply (h.2 reply)⟩

theorem makes_request {c : Call} (h : P c) : (request c).Makes P :=
  ⟨h, fun _ => trivial⟩

/-- The calls of a run are calls that the script makes. -/
theorem Makes.moments (h : s.Makes P) (w : Cluster) : ∀ m ∈ (s.run w).moments, P m.call := by
  induction s generalizing w with
  | done result =>
    intro m made
    cases made
  | call c next ih =>
    intro m made
    rcases List.mem_cons.1 made with isFirst | later
    · rw [isFirst]
      exact h.1
    · exact ih _ (h.2 _) _ m later

/-- Repeated attempts make the calls of one attempt. -/
theorem makes_retryFrom {act : Script ε (Except StoreError α)} (h : act.Makes P)
    (attempt left : Nat) : (retryFrom (pure ()) act attempt left).Makes P := by
  induction left generalizing attempt with
  | zero =>
    refine h.bind fun result => ?_
    cases result <;> trivial
  | succ left ih =>
    refine h.bind fun result => ?_
    cases result with
    | ok value => trivial
    | error cause =>
      dsimp only
      split
      · exact ih (attempt + 1)
      · trivial

/-- Updates under contention make the calls of one attempt. -/
theorem makes_updating (config : Config) {act : Script StoreError Unit} (h : act.Makes P) :
    (Reconcile.updating config act).Makes P := by
  rw [Reconcile.updating_eq]
  refine (makes_retryFrom h.attempt 1 _).bind fun result => ?_
  cases result <;> trivial

end Script

-- ============================================================ permission

/-- What the operator does to gateways: it creates one for settings that were
asked for, gives one other listeners, deletes one. Calls on routes are not told
apart. -/
inductive Call.Permitted (config : Config) (asked : ObjectRef → GatewaySettings → Prop) :
    Call → Prop
  | routes (request : Request RouteSpec) : Permitted config asked (.routes request)
  | read (target : ObjectRef) : Permitted config asked (.gateways (.get target))
  | create (target : ObjectRef) (settings : GatewaySettings) (listeners : List Listener)
    (isAsked : asked target settings) :
    Permitted config asked
      (.gateways (.create (Gateway.recording target settings config.gatewayClass listeners)))
  | merge (target : ObjectRef) (read : Gateway) (listeners : List Listener) :
    Permitted config asked (.gateways (.merge target (Sync.listenersPatch read listeners)))
  | delete (target : ObjectRef) (version : Option String) :
    Permitted config asked (.gateways (.delete target version))

-- =========================================================== operations

section Operations

open Script

variable {config : Config} {asked : ObjectRef → GatewaySettings → Prop}
  {target key current : ObjectRef}

/-- A collection lists the routes, and makes no other call. -/
theorem makes_collect (target : ObjectRef) :
    (Sync.collect target).Makes (Call.Permitted config asked) :=
  (makes_request (.routes .list)).bind fun _ => trivial

/-- What follows a collection is judged for all that may be collected. -/
theorem makes_collect_bind {f : Aggregation → Script SyncError α}
    (rest : ∀ a, (f a).Makes (Call.Permitted config asked)) :
    ((liftM (Sync.collect target) : Script SyncError Aggregation) >>= f).Makes
      (Call.Permitted config asked) :=
  ((makes_collect target).mapError _).bind rest

/-- What follows a read is judged for every gateway that may be found, or none. -/
theorem makes_read_bind {f : Option Gateway → Script SyncError α}
    (rest : ∀ found, (f found).Makes (Call.Permitted config asked)) :
    ((liftM (Gateways.get target) : Script SyncError (Option Gateway)) >>= f).Makes
      (Call.Permitted config asked) :=
  ((makes_request (.read target)).mapError _).bind rest

theorem makes_remove (target : ObjectRef) (existing : Gateway) :
    (Sync.remove target existing).Makes (Call.Permitted config asked) := by
  rw [Sync.remove_eq]
  exact (makes_request (.delete target _)).attempt.bind fun _ => trivial

/-- A gateway that was found is deleted, patched or left alone; it is not created again.
-/
theorem makes_syncExisting (target : ObjectRef) (existing : Gateway) :
    (Sync.syncExisting target existing).Makes (Call.Permitted config asked) :=
  Sync.syncExisting_elim target existing (fun _ => makes_collect_bind)
    (fun _ _ => makes_remove target existing) (fun _ _ _ => trivial)
    fun _ _ _ => ((makes_request (.merge target existing _)).mapError _).bind fun _ => trivial

/-- A refresh creates nothing, so it asks for no settings. -/
theorem makes_refresh (target : ObjectRef) :
    (Sync.refresh target).Makes (Call.Permitted config asked) :=
  Sync.refresh_elim target (fun _ => makes_read_bind) trivial
    fun existing => makes_syncExisting target existing

/-- A gateway is created for the settings that were asked for, or not at all. -/
theorem makes_create {settings : GatewaySettings} (isAsked : asked target settings) :
    (Sync.create config target settings).Makes (Call.Permitted config asked) :=
  Sync.create_elim config target settings (fun _ => makes_collect_bind) (fun _ _ => trivial)
    fun _ _ => ((makes_request (.create target settings _ isAsked)).mapError _).bind
      fun _ => trivial

/-- Ensuring creates its gateway for the settings at hand, and is a sync of it else. -/
theorem makes_ensure {settings : GatewaySettings} (isAsked : asked target settings) :
    (Sync.ensure config target settings).Makes (Call.Permitted config asked) :=
  Sync.ensure_elim config target settings (fun _ => makes_read_bind) (makes_create isAsked)
    (fun _ _ _ => trivial) fun existing _ => makes_syncExisting target existing

/-- Refreshes in turn create nothing either. -/
theorem makes_refreshAll (targets : List ObjectRef) :
    (Reconcile.refreshAll targets).Makes (Call.Permitted config asked) := by
  induction targets with
  | nil => trivial
  | cons target rest ih =>
    rw [Reconcile.refreshAll_cons]
    exact (makes_refresh target).bind fun _ => ih

section OnRoutes

variable {P : Call → Prop} (onRoutes : ∀ request, P (.routes request))
include onRoutes

/-- The finalizer is added by calls on routes alone. -/
theorem makes_addFinalizerOnce (key : ObjectRef) : (Reconcile.addFinalizerOnce key).Makes P :=
  Reconcile.addFinalizerOnce_elim key (fun _ => (makes_request (onRoutes (.get key))).bind)
    trivial (fun _ _ => trivial) fun _ _ => (makes_request (onRoutes _)).bind fun _ => trivial

/-- The finalizer is removed by calls on routes alone. -/
theorem makes_removeFinalizerOnce (key : ObjectRef) :
    (Reconcile.removeFinalizerOnce key).Makes P :=
  Reconcile.removeFinalizerOnce_elim key (fun _ => (makes_request (onRoutes (.get key))).bind)
    trivial (fun _ _ => trivial)
    fun _ _ => (makes_request (onRoutes _)).attempt.bind fun _ => trivial

/-- A gateway is recorded by a call on its route. -/
theorem makes_record (config : Config) (key : ObjectRef) (route : Route) (current : ObjectRef) :
    (Reconcile.record config key route current).Makes P := by
  refine Reconcile.record_elim config key route current (fun _ => trivial) fun _ => ?_
  rw [lift_store_event]
  exact ((makes_request (onRoutes _)).mapError _).bind fun _ => trivial

end OnRoutes

/-- The end of a route refreshes gateways and patches the route. -/
theorem makes_finalize (key : ObjectRef) (route : Route) :
    (Reconcile.finalize config key route).Makes (Call.Permitted config asked) := by
  rw [Reconcile.finalize_eq]
  refine ((makes_refreshAll _).mapError _).bind fun _ => ?_
  exact (makes_updating config (makes_removeFinalizerOnce .routes key)).bind fun _ => trivial

theorem makes_leavePrevious (route : Route) (current : ObjectRef) :
    (Reconcile.leavePrevious route current).Makes (Call.Permitted config asked) :=
  Reconcile.leavePrevious_elim route current (fun _ => trivial)
    fun previous _ => (makes_refresh previous).attempt.bind fun _ => trivial

/-- A route that is served has its own gateway ensured, for its own settings. -/
theorem makes_serve {route : Route}
    (isAsked : asked current (route.settings.effective config)) :
    (Reconcile.serve config key route current).Makes (Call.Permitted config asked) := by
  refine Reconcile.serve_elim config key route current (fun _ => ?_) fun _ => ?_
  · exact (makes_updating config (makes_addFinalizerOnce .routes key)).bind fun _ => trivial
  · refine (makes_record .routes config key route current).bind fun _ => ?_
    exact ((makes_ensure isAsked).mapError _).bind fun _ => trivial

/-- A route that attaches leaves its former gateway, and is served. -/
theorem makes_attach {route : Route}
    (isAsked : asked current (route.settings.effective config)) :
    (Reconcile.attach config key route current).Makes (Call.Permitted config asked) := by
  rw [attach_eq]
  exact (makes_leavePrevious route current).bind fun _ => makes_serve isAsked

/-- The only gateway that an event may create is the one that its route attaches
to, for the settings of that route. -/
theorem makes_handle {route : Route} (isAsked : ∀ current, route.parent? = some current →
      asked current (route.settings.effective config)) :
    (Reconcile.handle config key route).Makes (Call.Permitted config asked) :=
  Reconcile.handle_elim config key route (fun _ _ => makes_finalize key route)
    (fun _ _ => trivial) (fun _ _ _ => trivial) (fun _ _ _ => trivial)
    fun current _ _ parent => makes_attach (isAsked current parent)

/-- The calls of an event: it reads its route and, if there is one, handles it. -/
theorem moments_reconcile (config : Config) (w : Cluster) (key : ObjectRef) :
    ((reconcile config key).run w).moments
      = ⟨(w.answer (.routes (.get key))).met, .routes (.get key),
          (w.answer (.routes (.get key))).reply⟩
        :: match (w.answer (.routes (.get key))).reply with
          | .ok (some route) => ((Reconcile.handle config key route).run
              (w.answer (.routes (.get key))).after).moments
          | _ => [] := by
  rw [reconcile_eq]
  dsimp only [run, Run.preceded]
  rcases (w.answer (.routes (.get key))).reply with e | _ | route <;> rfl

/-- All calls of an event are permitted, if it asks for the settings of the route
that it reads. -/
theorem permitted_reconcile {w : Cluster}
    (isAsked : ∀ route current, (w.answer (.routes (.get key))).reply = .ok (some route) →
      route.parent? = some current → asked current (route.settings.effective config)) :
    ∀ m ∈ ((reconcile config key).run w).moments, m.call.Permitted config asked := by
  intro m made
  rw [moments_reconcile] at made
  rcases List.mem_cons.1 made with isFirst | later
  · rw [isFirst]
    exact .routes (.get key)
  · cases read : (w.answer (.routes (.get key))).reply with
    | error e =>
      rw [read] at later
      cases later
    | ok found =>
      rw [read] at later
      cases found with
      | none => cases later
      | some route =>
        have handled : (Reconcile.handle config key route).Makes (Call.Permitted config asked) :=
          makes_handle fun current parent => isAsked route current read parent
        exact handled.moments _ m later

end Operations

end SharedGateway
