/-
What a failed event leaves behind.

# Failures change nothing

A write that fails leaves the objects of its store alone, with one exception: a patch
under which another writer removes the object reports it missing, and it is. Stores
that are not set to do so (`Cluster.Stays`) answer every call either with success or
with an error that changed nothing, and a planned fault never reaches its store.
`atomic` is this way of answering, and runs among faults are answered so
(`run_of_stays`).

From here on an operation that writes once has not written when it fails: a sync, an
attempt at a finalizer, the bookkeeping. Attempts that are repeated have written
nothing but the last. So what is left of a failed event is what its earlier
operations have done to their end.

# How far an event may come

An event of a live route leaves its former gateway, writes its bookkeeping and
ensures its gateway, in this order, and only the last of the three can fail with
anything written before it. So a failed event of such a route may leave another
gateway than the one it attaches to synced, and the route with its bookkeeping; the
gateway that it attaches to is as it was. An event of a deleting route syncs its
gateways in turn and then lets go of the route, and letting go is one write. So a
failed event of such a route may leave some of its gateways synced (`Object.Turns`),
and the route as it was.

`Abandons` is both statements. They say that the event can be delivered again: the
route has the finalizers that it had, it asks for what it asked for, and its gateways
are either as the event found them or as it wanted them. For this no gateway may be
deleting with nothing to hold it (`Cluster.Held`): such a one would vanish under a
patch that succeeds.
-/
import SharedGateway.Proofs.ExactEvent
import SharedGateway.Proofs.Release

namespace SharedGateway

open Cluster (mayFail performs)
open Script

variable {config : Config} {w mid after : Cluster} {key target current : ObjectRef}
  {route : Route} {gateway : Gateway} {want : List Listener}

-- ======================================================== failed calls

namespace Store

variable {σ : Type} [Spec σ] {s : Store σ}

/-- No object is removed under a later patch, and none is changed by a failure. -/
def Atomic {α : Type} (s : Store σ) (exchange : Except StoreError α × Store σ) : Prop :=
  exchange.2.vanishBeforeMerge = false
    ∧ ∀ e, exchange.1 = .error e → exchange.2.objects = s.objects

omit [Spec σ] in
theorem vanishBeforeMerge_replace (stays : s.vanishBeforeMerge = false) (key : ObjectRef)
    (o : Object σ) : (s.replace key o).vanishBeforeMerge = false := by
  unfold replace
  split <;> exact stays

omit [Spec σ] in
theorem Atomic.of_ok {α : Type} {exchange : Except StoreError α × Store σ} {answer : α}
    (stays : exchange.2.vanishBeforeMerge = false) (ok : exchange.1 = .ok answer) :
    s.Atomic exchange :=
  ⟨stays, fun _ failed => by cases ok.symm.trans failed⟩

omit [Spec σ] in
/-- A write that changes no object changes none by failing. -/
theorem Atomic.of_same {α : Type} {exchange : Except StoreError α × Store σ}
    (stays : exchange.2.vanishBeforeMerge = false) (same : exchange.2.objects = s.objects) :
    s.Atomic exchange :=
  ⟨stays, fun _ _ => same⟩

theorem atomic_create (stays : s.vanishBeforeMerge = false) (o : Object σ) :
    s.Atomic (s.create o) :=
  create_elim s o (.of_same stays rfl) fun _ _ => .of_ok stays rfl

/-- A patch fails before it replaces anything, unless the object is removed under it. -/
theorem atomic_merge (stays : s.vanishBeforeMerge = false) (key : ObjectRef) (patch : Json) :
    s.Atomic (s.merge key patch) :=
  merge_elim s key patch (fun _ => .of_same stays rfl)
    (fun vanishing => absurd (stays.symm.trans vanishing) (by decide))
    (fun _ => .of_same stays rfl) (fun _ _ _ => .of_same stays rfl)
    (fun _ _ _ _ => .of_same stays rfl)
    fun _ o' _ _ _ => .of_ok (vanishBeforeMerge_replace stays key o') rfl

/-- An application is refused before it replaces anything. -/
theorem atomic_apply (stays : s.vanishBeforeMerge = false) (key : ObjectRef) (value : Json) :
    s.Atomic (s.apply key value) :=
  apply_elim s key value (.of_same stays rfl)
    (fun _ o' _ _ => .of_ok (vanishBeforeMerge_replace stays key o') rfl)
    fun _ _ _ => .of_ok stays rfl

/-- A deletion is refused before it removes or marks anything. -/
theorem atomic_delete (stays : s.vanishBeforeMerge = false) (key : ObjectRef)
    (version : Option String) : s.Atomic (s.delete key version) :=
  delete_elim s key version (fun _ => .of_same stays rfl) (fun _ _ _ => .of_same stays rfl)
    (fun _ _ _ _ => .of_ok stays rfl) (fun _ _ _ _ _ => .of_ok stays rfl)
    fun _ _ _ _ _ => .of_ok stays rfl

/-- Whatever is requested, a failure has changed no object. -/
theorem atomic_perform (stays : s.vanishBeforeMerge = false) (r : Request σ) :
    s.Atomic (s.perform r) := by
  cases r with
  | get key => exact .of_ok stays rfl
  | list => exact .of_ok stays rfl
  | create o => exact atomic_create stays o
  | merge key patch => exact atomic_merge stays key patch
  | apply key value manager => exact atomic_apply stays key value
  | delete key version => exact atomic_delete stays key version

end Store

namespace Cluster

/-- The stores hold the same objects, in the same versions. -/
structure SameObjects (w after : Cluster) : Prop where
  routes : after.routes.objects = w.routes.objects
  gateways : after.gateways.objects = w.gateways.objects

theorem SameObjects.refl (w : Cluster) : SameObjects w w :=
  ⟨rfl, rfl⟩

theorem SameObjects.trans (h : SameObjects w mid) (h' : SameObjects mid after) :
    SameObjects w after :=
  ⟨h'.routes.trans h.routes, h'.gateways.trans h.gateways⟩

theorem SameObjects.getRoute (h : SameObjects w after) (key : ObjectRef) :
    after.routes.get key = w.routes.get key := by
  rw [Store.get, h.routes, Store.get]

theorem SameObjects.getGateway (h : SameObjects w after) (key : ObjectRef) :
    after.gateways.get key = w.gateways.get key := by
  rw [Store.get, h.gateways, Store.get]

/-- Routes that are the same want the same of a gateway. -/
theorem wanted_of_objects (same : after.routes.objects = w.routes.objects)
    (target : ObjectRef) : after.wanted target = w.wanted target := by
  rw [Cluster.wanted, Store.list, same, Cluster.wanted, Store.list]

/-- No store is set to remove an object under the next patch. -/
structure Stays (w : Cluster) : Prop where
  routes : w.routes.vanishBeforeMerge = false
  gateways : w.gateways.vanishBeforeMerge = false

/-- The call is answered by its store, or fails without reaching it; and if it
fails, no object is changed. -/
def atomic : Answering := fun w c reply after =>
  mayFail w c reply after ∧ ∀ e, reply = .error e → w.SameObjects after

/-- Such stores answer with success, or with an error that changed no object. -/
theorem Stays.perform (h : w.Stays) (c : Call) :
    (w.perform c).2.Stays ∧ ∀ e, (w.perform c).1 = .error e → w.SameObjects (w.perform c).2 := by
  cases c with
  | routes request =>
    obtain ⟨stays, same⟩ := Store.atomic_perform h.routes request
    exact ⟨⟨stays, h.gateways⟩, fun e failed => ⟨same e failed, rfl⟩⟩
  | gateways request =>
    obtain ⟨stays, same⟩ := Store.atomic_perform h.gateways request
    exact ⟨⟨h.routes, stays⟩, fun e failed => ⟨rfl, same e failed⟩⟩

end Cluster

open Cluster (atomic SameObjects Stays)

instance : Answering.Faithful atomic := ⟨And.left⟩

namespace Script

variable {ε α : Type} {s : Script ε α} {c : Call} {R : c.Reply → Cluster → Prop}
  {Q : Except ε α → Cluster → Prop}

/-- A call ends well as its store has it, or with an error and all objects as they were.
-/
theorem ends_request_atomic
    (ok : ∀ answer, (w.perform c).1 = .ok answer → R (.ok answer) (w.perform c).2)
    (error : ∀ e after, w.SameObjects after → R (.error e) after) :
    (request c).Ends atomic w R := by
  rintro reply after ⟨answered, same⟩
  cases reply with
  | error e => exact error e after (same e rfl)
  | ok answer =>
    obtain ⟨reply, rfl⟩ := Cluster.performs_of_ok answered
    exact ok answer reply

/-- What holds whatever fails holds if failures change nothing. -/
theorem ends_atomic (ends : s.Ends mayFail w Q) : s.Ends atomic w Q :=
  ends.of_answering fun _ _ _ _ answered => answered.1

/-- Where nothing interferes but failures, and no object is removed under a patch,
the failures change no object. -/
theorem atomic_answer (h : w.FaultsOnly) (stays : w.Stays) (c : Call) :
    atomic w.unplanned c (w.answer c).reply (w.answer c).after.unplanned
      ∧ (w.answer c).after.Stays := by
  have answered := (h.answer c).1
  have stays' : w.unplanned.Stays := ⟨stays.routes, stays.gateways⟩
  obtain ⟨left, same⟩ := stays'.perform c
  have kept : (w.answer c).after.unplanned.Stays
      ∧ ∀ e, (w.answer c).reply = .error e →
        w.unplanned.SameObjects (w.answer c).after.unplanned := by
    obtain performed | ⟨-, unchanged⟩ := answered
    · obtain ⟨reply, performed⟩ := Cluster.performs_iff.1 performed
      rw [performed, reply]
      exact ⟨left, same⟩
    · rw [unchanged]
      exact ⟨stays', fun _ _ => .refl _⟩
  exact ⟨⟨answered, kept.2⟩, kept.1.routes, kept.1.gateways⟩

/-- Among such failures a run ends as demanded. -/
theorem run_of_stays (h : w.FaultsOnly) (stays : w.Stays) (ends : s.Ends atomic w.unplanned Q) :
    Q (s.run w).result (s.run w).cluster.unplanned := by
  induction s generalizing w with
  | done result => exact ends
  | call c next ih =>
    obtain ⟨answered, stays'⟩ := atomic_answer h stays c
    exact ih _ (h.answer c).2 stays' (ends _ _ answered)

end Script

-- ============================================================= gateways

/-- What a sync that writes makes of a gateway: it gets the listeners that are
wanted, or where none are wanted it is deleted, or marked if others hold it. -/
inductive Object.Turns (want : List Listener) (gateway : Gateway) : Option Gateway → Prop
  | patched (version : String) (wanted : want ≠ []) :
    Turns want gateway (some ((gateway.withListeners want).withVersion version))
  | removed (unwanted : want = []) (free : gateway.finalizers = []) : Turns want gateway none
  | marked (version : String) (unwanted : want = []) (claimed : gateway.finalizers ≠ []) :
    Turns want gateway (some (gateway.remarked (some Store.deletionTime) (some version)))

/-- Deleting a gateway that nobody wants turns it, or has changed nothing; no other
gateway changes. -/
theorem Store.turns_delete {s : Store GatewaySpec} (found : s.get target = some gateway)
    (unwanted : want = []) (version : Option String) (other : ObjectRef) :
    (s.delete target version).2.get other = s.get other
      ∨ (other = target ∧ gateway.Turns want ((s.delete target version).2.get target)) := by
  by_cases own : target = other
  · subst own
    obtain same | ⟨o, found', left⟩ := s.delete_left target version
    · rw [same]
      exact .inl rfl
    · cases found.symm.trans found'
      refine .inr ⟨rfl, ?_⟩
      rcases left with ⟨free, erased⟩ | ⟨claimed, -, kept⟩
      · rw [erased, Store.get_of_erased rfl, if_pos rfl]
        exact .removed unwanted free
      · rw [kept, Store.get_keep, if_pos rfl]
        exact .marked s.versionText unwanted claimed
  · refine .inl ?_
    obtain ⟨-, same⟩ | ⟨-, -, -, others, -⟩ := s.delete_cases target version
    · rw [same]
    · exact others other (Ne.symm own)

/-- A gateway that is not to be removed anyway stays under a patch. -/
theorem Store.get_of_merged {s : Store GatewaySpec} (found : s.get target = some gateway)
    (held : gateway.metadata.isReleased = false) {answer : Gateway}
    (merged : (s.merge target (Sync.listenersPatch gateway want)).1 = .ok answer)
    (other : ObjectRef) :
    (s.merge target (Sync.listenersPatch gateway want)).2.get other
      = if target = other then some ((gateway.withListeners want).withVersion s.versionText)
        else s.get other := by
  obtain ⟨⟨e, failed, -⟩, -⟩ | ⟨o, made, found', isRead, -, left⟩ :=
    s.merge_cases target (Sync.listenersPatch gateway want)
  · cases failed.symm.trans merged
  · cases found.symm.trans found'
    cases (ofJson?_listenersPatch gateway want).symm.trans isRead
    have stays : (gateway.withListeners want).metadata.isReleased = false := held
    rw [left other, Store.get_replace, stays]
    rfl

/-- Patching a gateway with the listeners that are wanted turns it, and no other. -/
theorem Store.turns_merge {s : Store GatewaySpec} (found : s.get target = some gateway)
    (held : gateway.metadata.isReleased = false) (wanted : want ≠ []) {answer : Gateway}
    (merged : (s.merge target (Sync.listenersPatch gateway want)).1 = .ok answer)
    (other : ObjectRef) :
    (s.merge target (Sync.listenersPatch gateway want)).2.get other = s.get other
      ∨ (other = target ∧ gateway.Turns want
        ((s.merge target (Sync.listenersPatch gateway want)).2.get target)) := by
  rw [Store.get_of_merged found held merged, Store.get_of_merged found held merged, if_pos rfl]
  by_cases same : target = other
  · exact .inr ⟨same.symm, .patched s.versionText wanted⟩
  · rw [if_neg same]
    exact .inl rfl

namespace Cluster

/-- Gateways of the list may have been synced, nothing else has changed. -/
structure Turns (w after : Cluster) (targets : List ObjectRef) : Prop where
  routes : after.routes.objects = w.routes.objects
  gateways : ∀ target, after.gateways.get target = w.gateways.get target
    ∨ (target ∈ targets ∧ ∃ gateway, w.gateways.get target = some gateway
      ∧ gateway.Turns (w.wanted target) (after.gateways.get target))

theorem Turns.of_same (h : SameObjects w after) (targets : List ObjectRef) :
    Turns w after targets :=
  ⟨h.routes, fun target => .inl (h.getGateway target)⟩

/-- A failure after syncs leaves what they have done. -/
theorem Turns.trans_same {targets : List ObjectRef} (h : Turns w mid targets)
    (h' : SameObjects mid after) : Turns w after targets where
  routes := h'.routes.trans h.routes
  gateways target := by
    rw [h'.getGateway]
    exact h.gateways target

/-- No gateway is synced twice. -/
theorem Turns.cons {targets : List ObjectRef} (first : Turns w mid [target])
    (rest : Turns mid after targets) (apart : target ∉ targets) :
    Turns w after (target :: targets) where
  routes := rest.routes.trans first.routes
  gateways other := by
    rcases rest.gateways other with same | ⟨listed, gateway, found, turns⟩
    · rw [same]
      rcases first.gateways other with same | ⟨isFirst, turned⟩
      · exact .inl same
      · exact .inr ⟨List.mem_cons.2 (.inl (List.mem_singleton.1 isFirst)), turned⟩
    · have other_ne : other ≠ target := fun same => apart (same ▸ listed)
      have unchanged : mid.gateways.get other = w.gateways.get other :=
        (first.gateways other).resolve_right fun turned =>
          other_ne (List.mem_singleton.1 turned.1)
      rw [wanted_of_objects first.routes] at turns
      exact .inr ⟨List.mem_cons_of_mem _ listed, gateway, unchanged.symm.trans found, turns⟩

end Cluster

open Cluster (Turns)

/-- A sync of a gateway that is there turns it or, if it fails, has changed nothing. -/
theorem ends_syncExisting_atomic (found : w.gateways.get target = some gateway)
    (held : gateway.metadata.isReleased = false) :
    (Sync.syncExisting target gateway).Ends atomic w
      (Leaves (Turns w · [target]) (SameObjects w)) := by
  refine ends_syncExisting_of (fun _ _ => .refl w) (fun unwanted => ?unwanted)
    (fun _ _ => .of_same (.refl w) [target]) fun wanted _ => ?differ
  case unwanted =>
    refine ends_request_atomic (fun answer _ => ⟨rfl, fun other => ?_⟩) fun cause after same => ?_
    · refine (Store.turns_delete found unwanted gateway.resourceVersion other).imp_right ?_
      rintro ⟨rfl, turns⟩
      exact ⟨List.mem_singleton_self _, gateway, found, turns⟩
    · exact Sync.removed_elim (.error cause) nofun (fun _ _ _ => .of_same same [target])
        fun _ _ _ => same
  case differ =>
    refine ends_request_atomic (fun answer merged => ⟨rfl, fun other => ?_⟩)
      fun e after same => same
    refine (Store.turns_merge found held wanted merged other).imp_right ?_
    rintro ⟨rfl, turns⟩
    exact ⟨List.mem_singleton_self _, gateway, found, turns⟩

/-- A refresh that fails has changed nothing. -/
theorem ends_refresh_atomic
    (held : ∀ gateway, w.gateways.get target = some gateway →
      gateway.metadata.isReleased = false) :
    (Sync.refresh target).Ends atomic w (Leaves (Turns w · [target]) (SameObjects w)) :=
  ends_refresh_of (fun _ _ => .refl w) (fun _ => .of_same (.refl w) [target])
    fun gateway found => ends_syncExisting_atomic found (held gateway found)

/-- A gateway that could not be ensured is as it was. -/
theorem ends_ensure_atomic (settings : GatewaySettings)
    (held : ∀ gateway, w.gateways.get target = some gateway →
      gateway.metadata.isReleased = false) :
    (Sync.ensure config target settings).Ends atomic w
      (Leaves (fun _ => True) (SameObjects w)) := by
  refine ends_ensure_of (fun _ _ => .refl w) (fun _ => ?missing) (fun _ _ _ _ => .refl w)
    fun gateway found _ => ?agreed
  case missing =>
    exact ends_create_of (fun _ _ => .refl w) (fun _ => trivial) fun _ =>
      ends_request_atomic (fun _ _ => trivial) fun _ _ same => same
  case agreed =>
    refine (ends_syncExisting_atomic found (held gateway found)).mono fun result after left => ?_
    cases result with
    | ok outcome => trivial
    | error e => exact left

/-- Of refreshes in turn, those before the first failure have synced their gateways. No
gateway comes up twice, so each was synced from what it was at the start. -/
theorem ends_refreshAll_atomic {targets : List ObjectRef} (nodup : targets.Nodup)
    (held : w.Held) :
    (Reconcile.refreshAll targets).Ends atomic w fun _ after => Turns w after targets := by
  have once : ∀ target ∈ targets, ∀ gateway, w.gateways.get target = some gateway →
      gateway.metadata.isReleased = false := fun target _ gateway found => held target gateway found
  clear held
  induction targets generalizing w with
  | nil => exact .of_same (.refl w) []
  | cons target rest ih =>
    obtain ⟨apart, nodup⟩ := List.nodup_cons.1 nodup
    rw [Reconcile.refreshAll_cons]
    refine (ends_refresh_atomic (once target List.mem_cons_self)).bind
      (fun outcome mid first => ?_) fun e mid same => ?_
    · -- the gateways that are still to come are as they were
      have unchanged : ∀ other ∈ rest, mid.gateways.get other = w.gateways.get other := by
        intro other later
        refine (first.gateways other).resolve_right fun turned => apart ?_
        exact List.mem_singleton.1 turned.1 ▸ later
      have once' : ∀ other ∈ rest, ∀ gateway, mid.gateways.get other = some gateway →
          gateway.metadata.isReleased = false := by
        intro other later gateway found
        rw [unchanged other later] at found
        exact once other (List.mem_cons_of_mem _ later) gateway found
      exact (ih nodup once').mono fun result after later => .cons first later apart
    · exact .of_same same _

-- =============================================================== routes

/-- Repeated attempts that fail have changed nothing. -/
theorem ends_updating_atomic {act : Script StoreError Unit}
    (step : ∀ w : Cluster, act.Ends atomic w (Leaves (fun _ => True) (SameObjects w))) :
    (Reconcile.updating config act).Ends atomic w (Leaves (fun _ => True) (SameObjects w)) := by
  refine ends_updating config (fun mid same => (step mid).mono fun result after left => ?_)
    (SameObjects.refl w)
  cases result with
  | ok done => trivial
  | error e => exact same.trans left

/-- An attempt at holding a route writes once, if at all. -/
theorem ends_addFinalizerOnce_atomic (w : Cluster) (key : ObjectRef) :
    (Reconcile.addFinalizerOnce key).Ends atomic w (Leaves (fun _ => True) (SameObjects w)) :=
  ends_addFinalizerOnce_of (fun _ _ => .refl w) (fun _ => .refl w) (fun _ _ _ => trivial)
    fun _ _ _ => ends_request_atomic (fun _ _ => trivial) fun _ _ same => same

/-- An attempt at letting a route go writes once, if at all. -/
theorem ends_removeFinalizerOnce_atomic (w : Cluster) (key : ObjectRef) :
    (Reconcile.removeFinalizerOnce key).Ends atomic w
      (Leaves (fun _ => True) (SameObjects w)) := by
  refine ends_removeFinalizerOnce_of (fun _ _ => .refl w) (fun _ => trivial) (fun _ _ _ => trivial)
    fun _ _ _ => ends_request_atomic (fun _ _ => trivial) fun cause after same => ?_
  dsimp only [Reconcile.letGo]
  split
  · trivial
  · exact same

/-- The routes are the same but for the two entries of the bookkeeping. -/
structure Object.Retouched (route route' : Route) : Prop where
  spec : route'.spec = route.spec
  labels : route'.metadata.labels = route.metadata.labels
  finalizers : route'.metadata.finalizers = route.metadata.finalizers
  annotations : ∀ name, name ≠ AnnotationKey.reconciled → name ≠ AnnotationKey.previousGateway →
    route'.annotated? name = route.annotated? name

theorem Object.Retouched.refl (route : Route) : route.Retouched route :=
  ⟨rfl, rfl, rfl, fun _ _ _ => rfl⟩

/-- Recording a gateway writes the two entries and names the route by its key. -/
theorem Object.retouched_recorded (route : Route) (key current : ObjectRef) :
    route.Retouched (route.recorded key current) where
  spec := rfl
  labels := rfl
  finalizers := rfl
  annotations name notReconciled notPrevious := by
    show (recordedIn (route.metadata.annotations.getD .empty) current).find? name
      = route.annotated? name
    rw [recordedIn, Table.find?_insert, if_neg (Ne.symm notPrevious), Table.find?_insert,
      if_neg (Ne.symm notReconciled), Object.annotated?]
    cases route.metadata.annotations <;> rfl

/-- Nothing but the bookkeeping of the route has changed. -/
structure Cluster.Retouches (w after : Cluster) (key : ObjectRef) (route : Route) : Prop where
  gateways : after.gateways.objects = w.gateways.objects
  others : ∀ other, other ≠ key → after.routes.get other = w.routes.get other
  own : ∃ route', after.routes.get key = some route' ∧ route.Retouched route'

open Cluster (Retouches)

/-- Where nothing has changed, the bookkeeping has not. -/
theorem Cluster.Retouches.of_same (h : SameObjects w after)
    (found : w.routes.get key = some route) : Retouches w after key route where
  gateways := h.gateways
  others other _ := h.getRoute other
  own := ⟨route, (h.getRoute key).trans found, .refl route⟩

/-- A failure after the bookkeeping leaves it written. -/
theorem Cluster.Retouches.trans_same (h : Retouches w mid key route)
    (h' : SameObjects mid after) : Retouches w after key route where
  gateways := h'.gateways.trans h.gateways
  others other differ := (h'.getRoute other).trans (h.others other differ)
  own := by
    rw [h'.getRoute]
    exact h.own

/-- Bookkeeping that could not be written has changed nothing. -/
theorem ends_record_atomic (found : w.routes.get key = some route)
    (live : route.isDeleting = false) (current : ObjectRef) :
    (Reconcile.record config key route current).Ends atomic w
      (Leaves (Retouches w · key route) (SameObjects w)) := by
  refine ends_record_of (fun _ => .of_same (.refl w) found) fun _ =>
    ends_request_atomic (fun answer _ => ?_) fun e after same => same
  rw [perform_apply_bookkeeping found current config.fieldManager]
  have stored := get_replace_recorded live w.routes key current
  refine ⟨rfl, fun other differ => ?_, w.routes.stamped (route.recorded key current), ?_, ?_⟩
  · exact (stored other).trans (if_neg (Ne.symm differ))
  · exact (stored key).trans (if_pos rfl)
  · obtain ⟨spec, labels, finalizers, annotations⟩ := route.retouched_recorded key current
    exact ⟨spec, labels, finalizers, annotations⟩

-- ================================================================ event

/-- The gateway of a route is ensured last, so when serving it fails, at most its
bookkeeping was written. -/
theorem ends_serve_atomic (found : w.routes.get key = some route)
    (live : route.isDeleting = false)
    (held : ∀ gateway, w.gateways.get current = some gateway →
      gateway.metadata.isReleased = false) :
    (Reconcile.serve config key route current).Ends atomic w
      (Leaves (fun _ => True) (Retouches w · key route)) := by
  refine Reconcile.serve_elim config key route current (fun _ => ?_) fun _ => ?_
  · refine (ends_updating_atomic (ends_addFinalizerOnce_atomic · key)).bind
      (fun _ _ _ => trivial) fun e after same => ?_
    exact .of_same same found
  · refine (ends_record_atomic found live current).bind (fun _ mid retouches => ?_)
      fun e after same => .of_same same found
    have held' : ∀ gateway, mid.gateways.get current = some gateway →
        gateway.metadata.isReleased = false := by
      intro gateway there
      rw [Store.get, retouches.gateways] at there
      exact held gateway there
    rw [ends_bind, ends_mapError]
    refine (ends_ensure_atomic _ held').mono fun result after left => ?_
    cases result with
    | ok outcome => trivial
    | error e => exact retouches.trans_same left

namespace Cluster

/-- What an event of the route may have left when it failed: bookkeeping that was
written, and gateways that were synced before. Those are the gateways of a deleting
route, and only the former one of a live route. -/
structure Abandons (w after : Cluster) (key : ObjectRef) (route : Route) : Prop where
  others : ∀ other, other ≠ key → after.routes.get other = w.routes.get other
  own : ∃ route', after.routes.get key = some route' ∧ route.Retouched route'
  live : route.isDeleting = false →
    ∀ target, route.parent? = some target ∨ route.settings.previous? ≠ some target →
      after.gateways.get target = w.gateways.get target
  deleting : route.isDeleting = true → ∀ target,
    after.gateways.get target = w.gateways.get target
      ∨ ((route.parent? = some target ∨ route.settings.previous? = some target)
        ∧ ∃ gateway, w.gateways.get target = some gateway
          ∧ gateway.Turns (after.wanted target) (after.gateways.get target))

/-- An event that has changed nothing may be delivered again. -/
theorem Abandons.of_same (h : SameObjects w after) (found : w.routes.get key = some route) :
    Abandons w after key route where
  others other _ := h.getRoute other
  own := ⟨route, (h.getRoute key).trans found, .refl route⟩
  live _ target _ := h.getGateway target
  deleting _ target := .inl (h.getGateway target)

/-- A deleting route is held, and of the gateways that it used some are synced. -/
theorem Abandons.of_turns (found : w.routes.get key = some route)
    (deleting : route.isDeleting = true)
    (h : Turns w after (Reconcile.formerGateways route)) : Abandons w after key route := by
  have routes : ∀ other, after.routes.get other = w.routes.get other := by
    intro other
    rw [Store.get, h.routes, Store.get]
  refine ⟨fun other _ => routes other, ⟨route, (routes key).trans found, .refl route⟩,
    fun live => ?_, fun _ target => ?_⟩
  · cases deleting.symm.trans live
  · refine (h.gateways target).imp_right fun turned => ?_
    obtain ⟨listed, gateway, there, turns⟩ := turned
    rw [wanted_of_objects h.routes]
    exact ⟨Reconcile.mem_formerGateways.1 listed, gateway, there, turns⟩

/-- A live route has left its former gateway, and its bookkeeping may be written. -/
theorem Abandons.of_left (live : route.isDeleting = false) (parent : route.parent? = some current)
    (left : Refreshes w mid (Reconcile.leftGateway? route current).toList)
    (h : Retouches mid after key route) : Abandons w after key route := by
  refine ⟨fun other differ => ?_, h.own, fun _ target stays => ?_, fun deleting => ?_⟩
  · rw [h.others other differ, left.routes]
  · have kept : after.gateways.get target = mid.gateways.get target := by
      rw [Store.get, h.gateways, Store.get]
    refine kept.trans (left.others target fun leaving => ?_)
    obtain ⟨differ, previous⟩ := leftGateway?_eq_some (Option.mem_toList.1 leaving)
    rcases stays with attached | other
    · exact differ (Option.some.inj (attached.symm.trans parent))
    · exact other previous
  · cases live.symm.trans deleting

end Cluster

open Cluster (Abandons)

/-- A route that could not be finalized is still held. -/
theorem ends_finalize_atomic (held : w.Held) (found : w.routes.get key = some route)
    (deleting : route.isDeleting = true) :
    (Reconcile.finalize config key route).Ends atomic w
      (Leaves (fun _ => True) (Abandons w · key route)) := by
  rw [Reconcile.finalize_eq]
  refine (ends_mapError.2 (ends_refreshAll_atomic (nodup_formerGateways route) held)).bind
    (P := fun _ mid => Turns w mid (Reconcile.formerGateways route))
    (fun _ mid turns => ?_) fun e mid turns => .of_turns found deleting turns
  refine (ends_updating_atomic (ends_removeFinalizerOnce_atomic · key)).bind
    (fun _ _ _ => trivial) fun e after same => ?_
  exact .of_turns found deleting (turns.trans_same same)

/-- A route that could not be attached has left its former gateway at most, and had its
bookkeeping written. -/
theorem ends_attach_atomic (held : w.Held) (found : w.routes.get key = some route)
    (live : route.isDeleting = false) (parent : route.parent? = some current) :
    (Reconcile.attach config key route current).Ends atomic w
      (Leaves (fun _ => True) (Abandons w · key route)) := by
  rw [attach_eq]
  refine (ends_atomic (ends_leavePrevious route current w)).bind (fun _ mid left => ?_)
    fun e mid left => ?_
  · have found' : mid.routes.get key = some route := by rw [left.routes, found]
    have unchanged : mid.gateways.get current = w.gateways.get current :=
      left.others current fun leaving =>
        (leftGateway?_eq_some (Option.mem_toList.1 leaving)).1 rfl
    refine (ends_serve_atomic found' live fun gateway there => ?_).mono
      fun result after served => ?_
    · rw [unchanged] at there
      exact held current gateway there
    · cases result with
      | ok outcome => trivial
      | error e => exact .of_left live parent left served
  · have found' : mid.routes.get key = some route := by rw [left.routes, found]
    exact .of_left live parent left (.of_same (.refl mid) found')

/-- Both ways of failing, by what the route is. -/
theorem ends_handle_atomic (held : w.Held) (found : w.routes.get key = some route) :
    (Reconcile.handle config key route).Ends atomic w
      (Leaves (fun _ => True) (Abandons w · key route)) :=
  Reconcile.handle_elim config key route
    (fun deleting _ => ends_finalize_atomic held found deleting) (fun _ _ => trivial)
    (fun _ _ _ => trivial) (fun _ _ _ => trivial)
    fun _ live _ parent => ends_attach_atomic held found live parent

/-- An event that fails leaves its route as it was, but for the bookkeeping. If the
route is live, only the gateway that it has left may differ; if it is deleting, each
of its gateways is as it was or synced. So the event can be delivered again. -/
theorem failed_event_is_safe_to_redeliver (config : Config) {w : Cluster}
    (faultsOnly : w.FaultsOnly) (stays : w.Stays) (held : w.Held) (key : ObjectRef)
    {e : ReconcileError} (failed : ((reconcile config key).run w).result = .error e) :
    let after := ((reconcile config key).run w).cluster
    (w.routes.get key = none → w.SameObjects after)
      ∧ ∀ route, w.routes.get key = some route → w.Abandons after key route := by
  intro after
  have ends : (reconcile config key).Ends atomic w.unplanned (Leaves (fun _ => True) fun after =>
      (w.routes.get key = none → w.unplanned.SameObjects after)
        ∧ ∀ route, w.routes.get key = some route → w.unplanned.Abandons after key route) := by
    refine ends_reconcile_of_handle (fun _ => trivial) (fun route found => ?_) fun e _ => ?_
    · refine (ends_handle_atomic (w := w.unplanned) held found).mono fun result after left => ?_
      cases result with
      | ok outcome => trivial
      | error e =>
        refine ⟨fun missing => ?_, fun known found' => ?_⟩
        · cases found.symm.trans missing
        · cases found.symm.trans found'
          exact left
    · exact ⟨fun _ => .refl _, fun route found => .of_same (.refl _) found⟩
  have left := run_of_stays faultsOnly stays ends
  rw [failed] at left
  obtain ⟨missing, abandons⟩ := left
  refine ⟨fun none => ?_, fun route found => ?_⟩
  · obtain ⟨routes, gateways⟩ := missing none
    exact ⟨routes, gateways⟩
  · obtain ⟨others, own, live, deleting⟩ := abandons route found
    exact ⟨others, own, live, deleting⟩

/-- The route that departs from two gateways, where the patch of the second one will
fail. -/
def stumbling : Cluster :=
  { departing with plans := fun site =>
      if site = ⟨.gateway, .merge⟩ then [{ fault := some (.status 500) }] else [] }

/-- One failure is planned, and nothing else. -/
theorem stumbling_faultsOnly : stumbling.FaultsOnly := by
  intro site d planned
  simp only [stumbling] at planned
  split at planned
  · cases List.mem_singleton.1 planned
    rfl
  · cases planned

/-- No gateway is released. -/
theorem stumbling_held : stumbling.Held := by
  intro target gateway found
  have stored : (target, gateway) ∈ [(⟨"infra", "new"⟩, _), (⟨"infra", "old"⟩, _)] :=
    Table.find?_eq_some_iff.1 found
  rcases List.mem_cons.1 stored with isNew | stored
  · cases isNew
    rfl
  · cases List.mem_singleton.1 stored
    rfl

theorem stumbling_fails : ((reconcile .standard ⟨"apps", "first"⟩).run stumbling).result
    = .error (.store (.api ⟨"Failure", 500, "Injected", "injected"⟩)) := by
  decide +kernel

/-- The first gateway is gone, which nobody wants any more; the route and the second
gateway are as they were. -/
theorem stumbled_event_is_safe_to_redeliver :
    let after := ((reconcile .standard ⟨"apps", "first"⟩).run stumbling).cluster
    stumbling.Abandons after ⟨"apps", "first"⟩ departing.leaver
      ∧ after.gateways.get ⟨"infra", "old"⟩ = none
      ∧ after.gateways.get ⟨"infra", "new"⟩ = stumbling.gateways.get ⟨"infra", "new"⟩ := by
  intro after
  obtain ⟨-, abandons⟩ := failed_event_is_safe_to_redeliver .standard stumbling_faultsOnly
    ⟨rfl, rfl⟩ stumbling_held ⟨"apps", "first"⟩ stumbling_fails
  exact ⟨abandons departing.leaver (by decide +kernel), by decide +kernel, by decide +kernel⟩

end SharedGateway
