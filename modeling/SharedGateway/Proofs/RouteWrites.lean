/-
What an event writes to its own route.

# The same route

The finalizer comes and goes and the bookkeeping is overwritten, but the route goes
on being the same one to the operator (`Object.Continues`): its specification, its
parent and its settings are what they were, so it asks the same of the same gateway.
The relation leaves out what the operator itself writes, and is what the aggregation,
and so every gateway, depends on (`Continues.serves`). For the bookkeeping this needs
a route that is stored under its own name (`continues_recorded`): the applied value
names the route by its key, and a parent without a namespace is looked for in that of
the route.

# Finalizers

A patch of the finalizers carries the version that was read, and whatever comes of
it, no more than the finalizers of the route have changed, or the route is gone
(`Refinalizes`, `refinalizes_merge`). This composes, so attempts may fail or be
repeated in any way (`ends_addFinalizer`, `ends_removeFinalizer`). That repeated
attempts end as one does, in the two senses in which it is used, is shown once for
every kind of attempt (`ends_updating`, `ends_updating_invariant`).

# Bookkeeping

Recording a gateway either leaves the route alone or names this gateway (`Records`,
`ends_record`). The value is applied without a version, so it goes through whenever
the route is there.
-/
import SharedGateway.Proofs.Aggregation
import SharedGateway.Proofs.Codec.Patches
import SharedGateway.Proofs.Ends
import SharedGateway.Proofs.Operations
import SharedGateway.Proofs.References
import SharedGateway.Proofs.Store

namespace SharedGateway

open Cluster (mayFail)

-- ========================================================= same route

namespace Object

/-- The second route is the first one to the operator, whatever finalizers and
bookkeeping the two carry. -/
structure Continues (route route' : Route) : Prop where
  spec : route'.spec = route.spec
  ref : route'.ref = route.ref
  parent : route'.parent? = route.parent?
  isDeleting : route'.isDeleting = route.isDeleting
  enabled : route'.settings.enabled = route.settings.enabled
  issuer : route'.settings.issuer = route.settings.issuer
  zone : route'.settings.zone = route.settings.zone

namespace Continues

variable {route route' route'' : Route}

theorem refl (route : Route) : route.Continues route :=
  ⟨rfl, rfl, rfl, rfl, rfl, rfl, rfl⟩

/-- A route that goes on twice goes on. -/
theorem trans (h : route.Continues route') (h' : route'.Continues route'') :
    route.Continues route'' :=
  ⟨h'.spec.trans h.spec, h'.ref.trans h.ref, h'.parent.trans h.parent,
    h'.isDeleting.trans h.isDeleting, h'.enabled.trans h.enabled,
    h'.issuer.trans h.issuer, h'.zone.trans h.zone⟩

theorem withVersion (h : route.Continues route') (version : String) :
    route.Continues (route'.withVersion version) :=
  ⟨h.spec, h.ref, h.parent, h.isDeleting, h.enabled, h.issuer, h.zone⟩

theorem effective (h : route.Continues route') (config : Config) :
    route'.settings.effective config = route.settings.effective config := by
  rw [RouteSettings.effective, h.issuer, h.zone]
  rfl

theorem attachesTo (h : route.Continues route') (target : ObjectRef) :
    route'.attachesTo target = route.attachesTo target := by
  simp only [Object.attachesTo, Object.takesPart, h.isDeleting, h.enabled, h.parent]

/-- A route that goes on serves the same hostnames by the same gateway. -/
theorem serves (h : route.Continues route') (target : ObjectRef) (hostname : String) :
    route'.serves target hostname ↔ route.serves target hostname := by
  rw [Object.serves, h.attachesTo, h.spec, Object.serves]

end Continues

end Object

-- ============================================================== patches

theorem continues_refinalized (route : Route) (finalizers : List String)
    (version : Option String) : route.Continues (route.refinalized finalizers version) :=
  ⟨rfl, rfl, rfl, rfl, rfl, rfl, rfl⟩

/-- The two entries of the bookkeeping hide no other annotation. -/
theorem find?_recordedIn {annotations : Table String String} {current : ObjectRef}
    {key : String} (reconciled : AnnotationKey.reconciled ≠ key)
    (previous : AnnotationKey.previousGateway ≠ key) :
    (recordedIn annotations current).find? key = annotations.find? key := by
  rw [recordedIn, Table.find?_insert, if_neg previous, Table.find?_insert, if_neg reconciled]

/-- A route whose gateway was recorded goes on as the same, if it is stored
under its own name; its bookkeeping names the gateway. -/
theorem continues_recorded {route : Route} {key : ObjectRef} (filed : route.ref = key)
    (current : ObjectRef) :
    route.Continues (route.recorded key current)
      ∧ (route.recorded key current).settings.previousGateway = some current.toText := by
  have table : (route.recorded key current).metadata.annotations.getD .empty
      = recordedIn (route.metadata.annotations.getD .empty) current := rfl
  have home : route.metadata.ns.getD "" = key.ns := congrArg ObjectRef.ns filed
  -- the patch fills in the namespace, which is the home of unqualified parents
  have parent : (route.recorded key current).parent? = route.parent? := by
    have spec : (route.recorded key current).spec = route.spec := rfl
    have ns : (route.recorded key current).metadata.ns = some key.ns := rfl
    rw [Object.parent?, spec, ns, Object.parent?]
    cases route.spec.parents with
    | nil => rfl
    | cons first rest => cases named : first.ns <;> simp [named, home]
  refine ⟨⟨rfl, filed.symm, parent, rfl, ?_, ?_, ?_⟩, ?_⟩
  · simp only [Object.settings, RouteSettings.ofAnnotations, table]
    rw [find?_recordedIn (by decide) (by decide)]
  · simp only [Object.settings, RouteSettings.ofAnnotations, RouteSettings.declared?, table]
    rw [find?_recordedIn (by decide) (by decide)]
  · simp only [Object.settings, RouteSettings.ofAnnotations, RouteSettings.declared?, table]
    rw [find?_recordedIn (by decide) (by decide)]
  · simp only [Object.settings, RouteSettings.ofAnnotations, RouteSettings.declared?, table]
    rw [recordedIn, Table.find?_insert, if_pos rfl]
    simp [ObjectRef.toText_ne_empty]

-- =========================================================== finalizers

namespace Cluster

/-- Nothing has changed but the finalizers of one route, which may be gone; in
a calm store it is gone only if it was deleting. -/
structure Refinalizes (w after : Cluster) (key : ObjectRef) : Prop where
  gateways : after.gateways = w.gateways
  others : ∀ other, other ≠ key → after.routes.get other = w.routes.get other
  route : ∀ route', after.routes.get key = some route' →
    ∃ route, w.routes.get key = some route ∧ route.Continues route'
      ∧ route'.settings = route.settings
  calm : w.routes.Calm → after.routes.Calm ∧ ∀ route, w.routes.get key = some route →
    route.isDeleting = false → ∃ route', after.routes.get key = some route'

namespace Refinalizes

variable {w after later : Cluster} {key : ObjectRef}

/-- Finalizers may stay as they are. -/
theorem refl (w : Cluster) (key : ObjectRef) : Refinalizes w w key where
  gateways := rfl
  others _ _ := rfl
  route route found := ⟨route, found, .refl route, rfl⟩
  calm calm := ⟨calm, fun route found _ => ⟨route, found⟩⟩

/-- Two changes of the finalizers are one. -/
theorem trans (h : Refinalizes w after key) (h' : Refinalizes after later key) :
    Refinalizes w later key where
  gateways := h'.gateways.trans h.gateways
  others other differ := (h'.others other differ).trans (h.others other differ)
  route route'' found'' := by
    obtain ⟨route', found', continues', settings'⟩ := h'.route route'' found''
    obtain ⟨route, found, continues, settings⟩ := h.route route' found'
    exact ⟨route, found, continues.trans continues', settings'.trans settings⟩
  calm calm := by
    obtain ⟨calm', kept⟩ := h.calm calm
    obtain ⟨calm'', kept'⟩ := h'.calm calm'
    refine ⟨calm'', fun route found live => ?_⟩
    obtain ⟨route', found'⟩ := kept route found live
    obtain ⟨route, found'', continues, -⟩ := h.route route' found'
    cases found.symm.trans found''
    exact kept' route' found' (continues.isDeleting.trans live)

end Refinalizes

end Cluster

open Cluster (Refinalizes)

variable {w : Cluster} {key : ObjectRef}

/-- A patch of the finalizers, whatever comes of it. -/
theorem refinalizes_merge {route : Route} (found : w.routes.get key = some route)
    (finalizers : List String) : Refinalizes w
      (w.perform (.routes (.merge key (Reconcile.finalizersPatch route finalizers)))).2 key := by
  let patch := Reconcile.finalizersPatch route finalizers
  show Refinalizes w { w with routes := (w.routes.merge key patch).2 } key
  have keepsCalm : w.routes.Calm → (w.routes.merge key patch).2.Calm :=
    fun calm => calm.perform (.merge key patch)
  obtain ⟨⟨e, -, left⟩, unchanged⟩ | ⟨known, route', found', read, -, left⟩ :=
    w.routes.merge_cases key patch
  -- the patch has failed: the route is as it was, or gone under another writer's hand
  · refine ⟨rfl, fun other differ => (left other).resolve_right fun gone => differ gone.1,
      fun route found => ?_, fun calm => ⟨keepsCalm calm, fun route found _ => ⟨route, ?_⟩⟩⟩
    · obtain same | ⟨-, -, gone⟩ := left key
      · exact ⟨route, same.symm.trans found, .refl route, rfl⟩
      · cases gone.symm.trans found
    · rw [← found]
      exact congrArg (Store.get · key) (unchanged calm)
  · cases found.symm.trans found'
    cases (ofJson?_finalizersPatch route finalizers).symm.trans read
    -- the patch went through: a live route is kept, a deleting one may be released by it
    let route' := route.refinalized finalizers route.resourceVersion
    have continues : route.Continues route' := continues_refinalized route finalizers _
    have stored : (w.routes.merge key patch).2.get key
        = if route'.metadata.isReleased then none else some (w.routes.stamped route') := by
      rw [left key, Store.get_replace, if_pos rfl]
    refine ⟨rfl, fun other differ => ?_, fun route'' found'' => ?_,
      fun calm => ⟨keepsCalm calm, fun known found' live => ?_⟩⟩
    · exact (left other).trans (by rw [Store.get_replace, if_neg (Ne.symm differ)])
    · have found' := stored.symm.trans found''
      split at found'
      · cases found'
      · cases found'
        exact ⟨route, found, continues.withVersion _, rfl⟩
    · cases found.symm.trans found'
      have held : route'.metadata.isReleased = false := by
        have notDeleting : route'.metadata.isDeleting = false := continues.isDeleting.trans live
        rw [Metadata.isReleased, notDeleting, Bool.false_and]
      exact ⟨w.routes.stamped route', stored.trans (by rw [held]; rfl)⟩

open Script

/-- The route is read from its store, or reading it fails. -/
theorem ends_getRoute_bind {answering : Answering} [answering.Faithful] {β : Type}
    {f : Option Route → Script StoreError β} {Q : Except StoreError β → Cluster → Prop}
    (ok : (f (w.routes.get key)).Ends answering w Q)
    (error : ∀ e, answering w (.routes (.get key)) (.error e) w → Q (.error e) w) :
    (Routes.get key >>= f).Ends answering w Q := by
  unfold Routes.get
  rw [ends_bind]
  exact ends_request_read rfl ok error

section Rules

variable {answering : Answering} [answering.Faithful] {Q : Except StoreError Unit → Cluster → Prop}

/-- An attempt at holding a route ends as its patch does, if it makes one. -/
theorem ends_addFinalizerOnce_of
    (unread : ∀ e, answering w (.routes (.get key)) (.error e) w → Q (.error e) w)
    (missing : w.routes.get key = none →
      Q (.error (.notFound Kind.httpRoute.toText key.toText)) w)
    (held : ∀ route, w.routes.get key = some route → route.isManaged = true → Q (.ok ()) w)
    (unheld : ∀ route, w.routes.get key = some route → route.isManaged = false →
      (request (.routes (.merge key (Reconcile.finalizersPatch route
        (route.finalizers ++ [finalizer]))))).Ends answering w
          fun reply after => Q (reply.map fun _ => ()) after) :
    (Reconcile.addFinalizerOnce key).Ends answering w Q := by
  refine Reconcile.addFinalizerOnce_elim key
    (K := fun found s => w.routes.get key = found → s.Ends answering w Q)
    (fun _ rest => ends_getRoute_bind (rest _ rfl) unread) missing
    (fun route managed found => held route found managed) fun route managed found => ?_
  refine ends_bind.2 ((unheld route found managed).mono fun reply after ended => ?_)
  cases reply <;> exact ended

/-- So does an attempt at letting it go, and what it makes of the answer. -/
theorem ends_removeFinalizerOnce_of
    (unread : ∀ e, answering w (.routes (.get key)) (.error e) w → Q (.error e) w)
    (missing : w.routes.get key = none → Q (.ok ()) w)
    (unheld : ∀ route, w.routes.get key = some route → route.isManaged = false → Q (.ok ()) w)
    (held : ∀ route, w.routes.get key = some route → route.isManaged = true →
      (request (.routes (.merge key (Reconcile.finalizersPatch route
        (Reconcile.released route.finalizers))))).Ends answering w
          fun reply after => Q (Reconcile.letGo reply) after) :
    (Reconcile.removeFinalizerOnce key).Ends answering w Q :=
  Reconcile.removeFinalizerOnce_elim key
    (K := fun found s => w.routes.get key = found → s.Ends answering w Q)
    (fun _ rest => ends_getRoute_bind (rest _ rfl) unread) missing
    (fun route managed found => unheld route found managed) fun route managed found =>
      ends_bind.2 (ends_attempt.2 (held route found managed))

end Rules

/-- An attempt at holding a route changes its finalizers at most. -/
theorem ends_addFinalizerOnce (w : Cluster) (key : ObjectRef) :
    (Reconcile.addFinalizerOnce key).Ends mayFail w fun _ after => Refinalizes w after key :=
  ends_addFinalizerOnce_of (fun _ _ => .refl w key) (fun _ => .refl w key)
    (fun _ _ _ => .refl w key) fun _ found _ =>
      ends_request_mayFail.2 ⟨refinalizes_merge found _, fun _ => .refl w key⟩

/-- An attempt at letting a route go changes its finalizers at most. -/
theorem ends_removeFinalizerOnce (w : Cluster) (key : ObjectRef) :
    (Reconcile.removeFinalizerOnce key).Ends mayFail w fun _ after =>
      Refinalizes w after key :=
  ends_removeFinalizerOnce_of (fun _ _ => .refl w key) (fun _ => .refl w key)
    (fun _ _ _ => .refl w key) fun _ found _ =>
      ends_request_mayFail.2 ⟨refinalizes_merge found _, fun _ => .refl w key⟩

/-- Attempts end with the first that succeeds; one that fails leaves what the
next one needs. -/
theorem ends_retryFrom {ε α : Type} {answering : Answering} {D I : Cluster → Prop}
    {act : Script StoreError α} (step : ∀ w, I w → act.Ends answering w (Leaves D I))
    (attempt left : Nat) (w : Cluster) (h : I w) :
    (retryFrom (pure ()) (act.attempt : Script ε _) attempt left).Ends answering w
      fun result after => ∃ ended, result = .ok ended ∧ Leaves D I ended after := by
  have first : ∀ w, I w → (act.attempt : Script ε _).Ends answering w
      fun result after => ∃ ended, result = .ok ended ∧ Leaves D I ended after := by
    intro w h
    exact ends_attempt.2 ((step w h).mono fun result after kept => ⟨result, rfl, kept⟩)
  -- the invariant is what a failed attempt leaves, and what the next one starts from
  induction left generalizing attempt w with
  | zero =>
    refine (first w h).bind (fun result after kept => ?_) fun e after kept => ?_
    · obtain ⟨ended, same, kept⟩ := kept
      cases same
      cases result <;> exact ⟨_, rfl, kept⟩
    · obtain ⟨ended, failed, -⟩ := kept
      cases failed
  | succ left ih =>
    refine (first w h).bind (fun result after kept => ?_) fun e after kept => ?_
    · obtain ⟨ended, same, kept⟩ := kept
      cases same
      cases result with
      | ok value => exact ⟨_, rfl, kept⟩
      | error cause =>
        dsimp only
        split
        · exact ih (attempt + 1) after kept
        · exact ⟨_, rfl, kept⟩
    · obtain ⟨ended, failed, -⟩ := kept
      cases failed

/-- Repeated attempts end as one attempt does that starts from what the failed ones
leave. -/
theorem ends_updating {answering : Answering} {D I : Cluster → Prop} (config : Config)
    {act : Script StoreError Unit} (step : ∀ w, I w → act.Ends answering w (Leaves D I))
    (h : I w) : (Reconcile.updating config act).Ends answering w (Leaves D I) := by
  rw [Reconcile.updating_eq]
  refine (ends_retryFrom step 1 _ w h).bind (fun result after kept => ?_)
    fun e after kept => ?_
  · obtain ⟨ended, same, kept⟩ := kept
    cases same
    cases result <;> exact kept
  · obtain ⟨ended, failed, -⟩ := kept
    cases failed

/-- Repeated attempts keep what one attempt keeps. -/
theorem ends_updating_invariant {answering : Answering} {I : Cluster → Prop} (config : Config)
    {act : Script StoreError Unit}
    (step : ∀ w, I w → act.Ends answering w fun _ after => I after) (h : I w) :
    (Reconcile.updating config act).Ends answering w fun _ after => I after := by
  refine (ends_updating (D := I) config (fun w h => ?_) h).mono fun result after kept => ?_
  · refine (step w h).mono fun result after kept => ?_
    cases result <;> exact kept
  · cases result <;> exact kept

/-- Holding a route changes its finalizers at most, however often it is tried. -/
theorem ends_addFinalizer (config : Config) (w : Cluster) (key : ObjectRef) :
    (Reconcile.updating config (Reconcile.addFinalizerOnce key)).Ends mayFail w fun _ after =>
      Refinalizes w after key :=
  ends_updating_invariant config
    (fun after kept => (ends_addFinalizerOnce after key).mono fun _ _ => kept.trans)
    (.refl w key)

/-- Letting a route go changes its finalizers at most, however often it is tried. -/
theorem ends_removeFinalizer (config : Config) (w : Cluster) (key : ObjectRef) :
    (Reconcile.updating config (Reconcile.removeFinalizerOnce key)).Ends mayFail w
      fun _ after => Refinalizes w after key :=
  ends_updating_invariant config
    (fun after kept => (ends_removeFinalizerOnce after key).mono fun _ _ => kept.trans)
    (.refl w key)

-- ========================================================= bookkeeping

/-- Nothing has changed but the bookkeeping of one route, and that only to name
the gateway. -/
structure Cluster.Records (w after : Cluster) (key current : ObjectRef) (route : Route) :
    Prop where
  gateways : after.gateways = w.gateways
  others : ∀ other, other ≠ key → after.routes.get other = w.routes.get other
  calm : w.routes.Calm → after.routes.Calm
  route : ∃ route', after.routes.get key = some route' ∧ route.Continues route'
    ∧ route'.finalizers = route.finalizers
    ∧ (route'.settings.previousGateway = route.settings.previousGateway
      ∨ route'.settings.previousGateway = some current.toText)

open Cluster (Records)

theorem Cluster.Records.refl {key current : ObjectRef} {route : Route}
    (found : w.routes.get key = some route) : Records w w key current route :=
  ⟨rfl, fun _ _ => rfl, id, route, found, .refl route, rfl, .inl rfl⟩

/-- Bookkeeping that is applied to a stored route is written. -/
theorem perform_apply_bookkeeping {key : ObjectRef} {route : Route}
    (found : w.routes.get key = some route) (current : ObjectRef) (manager : String) :
    w.perform (.routes (.apply key (Reconcile.bookkeeping key current) manager))
      = (.ok (w.routes.stamped (route.recorded key current)),
        { w with routes := w.routes.replace key (route.recorded key current) }) := by
  show ((w.routes.apply key _).1, { w with routes := (w.routes.apply key _).2 }) = _
  unfold Store.apply Store.replaceJson
  rw [found]
  dsimp only
  rw [ofJson?_bookkeeping]

/-- A live route goes on being stored when its bookkeeping is written. -/
theorem get_replace_recorded {route : Route} (live : route.isDeleting = false)
    (routes : Store RouteSpec) (key current other : ObjectRef) :
    (routes.replace key (route.recorded key current)).get other
      = if key = other then some (routes.stamped (route.recorded key current))
        else routes.get other := by
  have held : (route.recorded key current).metadata.isReleased = false := by
    have notDeleting : (route.recorded key current).metadata.isDeleting = false := live
    rw [Metadata.isReleased, notDeleting, Bool.false_and]
  rw [Store.get_replace, held]
  rfl

/-- The bookkeeping of a route that is stored under its own name, applied. -/
theorem records_apply {key current : ObjectRef} {route : Route} (manager : String)
    (found : w.routes.get key = some route) (filed : route.ref = key)
    (live : route.isDeleting = false) :
    let exchange := w.perform (.routes (.apply key (Reconcile.bookkeeping key current) manager))
    Records w exchange.2 key current route ∧ ∀ answer, exchange.1 = .ok answer →
      ∀ route', exchange.2.routes.get key = some route' →
        route'.settings.previousGateway = some current.toText := by
  obtain ⟨continues, named⟩ := continues_recorded filed current
  have stored := get_replace_recorded live w.routes key current
  rw [perform_apply_bookkeeping found]
  refine ⟨⟨rfl, fun other differ => ?_, fun calm => calm.replace key _,
    w.routes.stamped (route.recorded key current), ?_, continues.withVersion _, rfl, .inr named⟩,
    fun _ _ route' there => ?_⟩
  · exact (stored other).trans (if_neg (Ne.symm differ))
  · exact (stored key).trans (if_pos rfl)
  · cases ((stored key).trans (if_pos rfl)).symm.trans there
    exact named

/-- Recording a gateway ends as the bookkeeping is applied, if it has to be. -/
theorem ends_record_of {answering : Answering} {config : Config} {key current : ObjectRef}
    {route : Route} {Q : Except ReconcileError Unit → Cluster → Prop}
    (recorded : Reconcile.isRecorded route current = true → Q (.ok ()) w)
    (unrecorded : Reconcile.isRecorded route current = false →
      (request (.routes (.apply key (Reconcile.bookkeeping key current)
        config.fieldManager))).Ends answering w
          fun reply after => Q ((reply.map fun _ => ()).mapError .store) after) :
    (Reconcile.record config key route current).Ends answering w Q := by
  refine Reconcile.record_elim config key route current recorded fun isNew => ?_
  rw [lift_store_event]
  refine ends_bind.2 (ends_mapError.2 ((unrecorded isNew).mono fun reply after ended => ?_))
  cases reply <;> exact ended

/-- Recording a gateway in a route that is stored under its own name: if it
succeeds, the bookkeeping names the gateway. -/
theorem ends_record (config : Config) {key current : ObjectRef} {route : Route}
    (found : w.routes.get key = some route) (filed : route.ref = key)
    (live : route.isDeleting = false) :
    (Reconcile.record config key route current).Ends mayFail w fun result after =>
      Records w after key current route ∧ (result = .ok () →
        ∀ route', after.routes.get key = some route' →
          route'.settings.previousGateway = some current.toText) := by
  refine ends_record_of (fun recorded => ⟨.refl found, fun _ route' there => ?_⟩) fun _ => ?_
  · cases found.symm.trans there
    exact of_decide_eq_true (Bool.and_eq_true_iff.1 recorded).2
  · obtain ⟨records, named⟩ := records_apply config.fieldManager found filed live
    refine ends_request_mayFail.2 ⟨⟨records, fun ok => ?_⟩, fun e => ⟨.refl found, nofun⟩⟩
    generalize w.perform (.routes (.apply key (Reconcile.bookkeeping key current)
      config.fieldManager)) = exchange at named ok
    cases reply : exchange.1 with
    | error e =>
      rw [reply] at ok
      cases ok
    | ok answer => exact named answer reply

end SharedGateway
