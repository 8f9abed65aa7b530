/-
What an event leaves as it was.

# Told by the written form

That nothing else has changed is a statement about everything there is to see of an
object, so it is made about written forms. `Json.besides` takes the values at given
paths out of a value: the version, the finalizers and the two entries of the
bookkeeping. What is left of a written route is the written form of the route without
them (`Object.besides_tendedPaths`), so it is enough to know the objects
(`Object.besides_of_untended`).

# The fate of a route

The route of an event is kept, gets or loses the operator's finalizer, gets its
bookkeeping, or is gone (`Object.Fate`). Each of these is known as a whole object,
also when attempts at the finalizer are repeated: an attempt either leaves the route
as it was or has written the finalizers, and after it has written them the next
attempt finds nothing to do (`ends_addFinalizerOnce_idle`,
`ends_removeFinalizerOnce_idle`). So however many there are, the finalizer is
appended once and taken out once (`Object.Refits`). A route is gone because it was
deleting and nothing else held it, or because the store was set to remove it under a
patch, as another writer might.

# All else

Other routes are untouched, and so are the gateways that the route does not mention;
both are read off the phases of the event. With the fate of its own route this is all
that the cluster holds (`event_keeps_all_else`).
-/
import SharedGateway.Proofs.Release

namespace SharedGateway

open Cluster (mayFail)
open Script

-- ========================================================= written forms

namespace Json

/-- The value without what stands at the end of the path, if anything does; of the
empty path that is the value itself. -/
def pruned (v : Json) : List String → Option Json
  | [] => none
  | name :: below =>
    match v.get? name with
    | none => some v
    | some inner =>
      match inner.pruned below with
      | none => some (.obj (eraseField name v.fields))
      | some kept => some (.obj (setField name kept v.fields))

/-- The value without what stands at the end of any of the paths. -/
def besides (paths : List (List String)) (v : Json) : Option Json :=
  paths.foldlM pruned v

/-- An object is pruned to the one that differs from it under the first name only, by
what is pruned there. -/
theorem IsObject.pruned {v w : Json} (hv : v.IsObject) (hw : w.IsObject) {name : String}
    {below : List String} (own : w.get? name = (v.get? name).bind (·.pruned below))
    (others : ∀ other, name ≠ other → w.get? other = v.get? other) :
    v.pruned (name :: below) = some w := by
  unfold Json.pruned
  cases found : v.get? name with
  | none =>
    rw [found] at own
    refine congrArg some (hv.ext hw fun other => ?_)
    by_cases same : name = other
    · rw [← same, found, own]
      rfl
    · exact (others other same).symm
  | some inner =>
    rw [found] at own
    dsimp only
    cases rest : inner.pruned below with
    | none =>
      -- nothing is left under the name, so the field goes
      have isObject : (Json.obj (eraseField name v.fields)).IsObject :=
        ⟨rfl, ascending_eraseField hv.ascending⟩
      refine congrArg some (isObject.ext hw fun other => ?_)
      rw [get?, fields, field?_eraseField]
      by_cases same : name = other
      · rw [if_pos same, ← same, own]
        exact rest.symm
      · rw [if_neg same]
        exact (others other same).symm
    | some kept =>
      -- something is left, and stands where the field stood
      have isObject : (Json.obj (setField name kept v.fields)).IsObject :=
        ⟨rfl, ascending_setField hv.ascending⟩
      refine congrArg some (isObject.ext hw fun other => ?_)
      rw [get?, fields, field?_setField]
      by_cases same : name = other
      · rw [if_pos same, ← same, own]
        exact rest.symm
      · rw [if_neg same]
        exact (others other same).symm

end Json

open Json (isObject_object isObject_ofTextTable)

/-- Where the operator writes in a route: the version, which the store stamps, the
finalizers, and the two entries of the bookkeeping. -/
def Object.tendedPaths : List (List String) := [
  ["metadata", "resourceVersion"],
  ["metadata", "finalizers"],
  ["metadata", "annotations", AnnotationKey.reconciled],
  ["metadata", "annotations", AnnotationKey.previousGateway]]

/-- The annotations without the operator's two entries. -/
def unrecordedIn (annotations : Table String String) : Table String String :=
  (annotations.erase AnnotationKey.reconciled).erase AnnotationKey.previousGateway

/-- The object without what the operator writes in a route. -/
def Object.untended {σ : Type} (o : Object σ) : Object σ :=
  { o with metadata := { o.metadata with
      resourceVersion := none
      finalizers := none
      annotations := o.metadata.annotations.map unrecordedIn } }

/-- To prune a written table is to erase the key. -/
theorem pruned_ofTextTable (t : Table String String) (key : String) :
    (Json.ofTextTable t).pruned [key] = some (Json.ofTextTable (t.erase key)) := by
  refine (isObject_ofTextTable t).pruned (isObject_ofTextTable _) ?_ fun other differ => ?_
  · rw [Json.get?_ofTextTable, Table.find?_erase, if_pos rfl]
    cases (Json.ofTextTable t).get? key <;> rfl
  · rw [Json.get?_ofTextTable, Table.find?_erase, if_neg differ, Json.get?_ofTextTable]

namespace Metadata

variable (m : Metadata)

/-- To prune the version of written metadata is to have none. -/
theorem pruned_version :
    m.toJson.pruned ["resourceVersion"] = some { m with resourceVersion := none }.toJson := by
  refine m.isObject_toJson.pruned (isObject_toJson _) ?_ fun other differ => ?_
  · cases version : m.resourceVersion <;> simp [toJson, version, Json.pruned]
  · simp [toJson, differ]

/-- To prune the finalizers of written metadata is to have none. -/
theorem pruned_finalizers :
    m.toJson.pruned ["finalizers"] = some { m with finalizers := none }.toJson := by
  refine m.isObject_toJson.pruned (isObject_toJson _) ?_ fun other differ => ?_
  · cases listed : m.finalizers <;> simp [toJson, listed, Json.pruned]
  · simp [toJson, differ]

/-- To prune an annotation of written metadata is to erase it, if there are any. -/
theorem pruned_annotation (key : String) :
    m.toJson.pruned ["annotations", key]
      = some { m with annotations := m.annotations.map (Table.erase · key) }.toJson := by
  refine m.isObject_toJson.pruned (isObject_toJson _) ?_ fun other differ => ?_
  · cases annotated : m.annotations <;> simp [toJson, annotated, pruned_ofTextTable]
  · simp [toJson, differ]

end Metadata

/-- To prune the metadata of a written object is to prune the object. -/
theorem Object.pruned_metadata {σ : Type} [Spec σ] (o : Object σ) {below : List String}
    {m : Metadata} (part : o.metadata.toJson.pruned below = some m.toJson) :
    o.toJson.pruned ("metadata" :: below) = some { o with metadata := m }.toJson := by
  refine o.isObject_toJson.pruned (isObject_toJson _) ?_ fun other differ => ?_
  · simp [toJson, part]
  · simp [toJson, differ]

/-- Without what the operator writes, an object is written as what is left of it. -/
theorem Object.besides_tendedPaths {σ : Type} [Spec σ] (o : Object σ) :
    o.toJson.besides tendedPaths = some o.untended.toJson := by
  simp only [Json.besides, tendedPaths, List.foldlM_cons, List.foldlM_nil, Option.bind_eq_bind,
    Option.pure_def]
  rw [o.pruned_metadata o.metadata.pruned_version, Option.bind_some,
    Object.pruned_metadata _ (Metadata.pruned_finalizers _), Option.bind_some,
    Object.pruned_metadata _ (Metadata.pruned_annotation _ _), Option.bind_some,
    Object.pruned_metadata _ (Metadata.pruned_annotation _ _)]
  simp only [untended, Option.map_map]
  rfl

-- ============================================================ bookkeeping

/-- The object names the key as its own. -/
structure Object.HousedAt {σ : Type} (o : Object σ) (key : ObjectRef) : Prop where
  ns : o.metadata.ns = some key.ns
  name : o.metadata.name = some key.name

theorem Object.HousedAt.ref {σ : Type} {o : Object σ} {key : ObjectRef} (h : o.HousedAt key) :
    o.ref = key := by
  rw [Object.ref, Metadata.ref, Metadata.displayName, h.ns, h.name]
  rfl

/-- Without its two entries, the bookkeeping leaves no trace in the annotations. -/
theorem unrecordedIn_recordedIn (annotations : Table String String) (current : ObjectRef) :
    unrecordedIn (recordedIn annotations current) = unrecordedIn annotations := by
  refine Table.ext_find? fun name => ?_
  simp only [unrecordedIn, recordedIn, Table.find?_erase, Table.find?_insert]
  by_cases previous : AnnotationKey.previousGateway = name
  · simp [previous]
  · by_cases reconciled : AnnotationKey.reconciled = name <;> simp [previous, reconciled]

/-- To opt in takes an annotation. -/
theorem Object.annotations_of_enabled {route : Route} (enabled : route.settings.enabled = true) :
    ∃ annotations, route.metadata.annotations = some annotations := by
  cases annotated : route.metadata.annotations with
  | some annotations => exact ⟨annotations, rfl⟩
  | none =>
    simp only [Object.settings, RouteSettings.ofAnnotations, annotated] at enabled
    cases enabled

/-- Recording a gateway in a route that names the key writes nothing else. -/
theorem Object.untended_recorded {route : Route} {key : ObjectRef} (housed : route.HousedAt key)
    (enabled : route.settings.enabled = true) (current : ObjectRef) :
    (route.recorded key current).untended = route.untended := by
  obtain ⟨annotations, annotated⟩ := annotations_of_enabled enabled
  have table : (route.recorded key current).metadata.annotations
      = some (recordedIn annotations current) := by
    rw [Object.recorded, Metadata.recorded, annotated]
    rfl
  simp only [untended, table, annotated, Option.map_some, unrecordedIn_recordedIn]
  simp only [Object.recorded, Metadata.recorded, ← housed.ns, ← housed.name]

-- ============================================================= finalizers

/-- The object went away under another writer's hand, whose removal was due. -/
structure Store.Vanishes {σ : Type} (before after : Store σ) (key : ObjectRef) : Prop where
  due : before.vanishBeforeMerge = true
  done : after.vanishBeforeMerge = false
  gone : after.get key = none

/-- The route is as it was, or has the finalizers; or it is gone, since it was
deleting and has none, or went away under another writer's hand. -/
inductive Object.Refits (route : Route) (finalizers : List String) (key : ObjectRef)
    (before after : Store RouteSpec) : Prop
  | kept (stored : after.get key = some route)
    (mark : after.vanishBeforeMerge = before.vanishBeforeMerge)
  | written (version : String)
    (stored : after.get key = some (route.refinalized finalizers (some version)))
  | released (deleting : route.isDeleting = true) (none_left : finalizers = [])
    (gone : after.get key = none)
  | vanished (vanishes : before.Vanishes after key)

variable {w : Cluster} {key : ObjectRef} {route : Route}

/-- What comes before the removal by another writer is due does not matter. -/
theorem Object.Refits.of_mark {finalizers : List String} {before mid after : Store RouteSpec}
    (h : route.Refits finalizers key mid after)
    (mark : mid.vanishBeforeMerge = before.vanishBeforeMerge) :
    route.Refits finalizers key before after := by
  cases h with
  | kept stored mark' => exact .kept stored (mark'.trans mark)
  | written version stored => exact .written version stored
  | released deleting none_left gone => exact .released deleting none_left gone
  | vanished vanishes => exact .vanished ⟨mark ▸ vanishes.due, vanishes.done, vanishes.gone⟩

/-- A patch of the finalizers, whatever comes of it. -/
theorem refits_merge {routes : Store RouteSpec} (found : routes.get key = some route)
    (finalizers : List String) : route.Refits finalizers key routes
      (routes.merge key (Reconcile.finalizersPatch route finalizers)).2 := by
  obtain ⟨same, mark⟩ | ⟨due, done, erased⟩ | ⟨known, route', found', read, left⟩ :=
    routes.merge_left key (Reconcile.finalizersPatch route finalizers)
  · refine .kept ?_ mark
    rw [Store.get, same]
    exact found
  · exact .vanished ⟨due, done, (Store.get_of_erased erased key).trans (if_pos rfl)⟩
  · cases found.symm.trans found'
    cases (ofJson?_finalizersPatch route finalizers).symm.trans read
    have stored := Store.get_replace routes key key
      (route.refinalized finalizers route.resourceVersion)
    rw [← left, if_pos rfl] at stored
    split at stored
    · rename_i unheld
      obtain ⟨deleting, none_left⟩ := Bool.and_eq_true_iff.1 unheld
      exact .released deleting (List.isEmpty_iff.1 none_left) stored
    · exact .written _ stored

/-- A route that is held already, or gone, is not written. -/
theorem ends_addFinalizerOnce_idle
    (held : ∀ stored, w.routes.get key = some stored → stored.isManaged = true) :
    (Reconcile.addFinalizerOnce key).Ends mayFail w fun _ after => after = w := by
  refine ends_addFinalizerOnce_of (fun _ _ => rfl) (fun _ => rfl) (fun _ _ _ => rfl)
    fun stored found unmanaged => ?_
  cases unmanaged.symm.trans (held stored found)

/-- An attempt at holding a route appends the finalizer, or has written nothing. -/
theorem ends_addFinalizerOnce_refits (found : w.routes.get key = some route) :
    (Reconcile.addFinalizerOnce key).Ends mayFail w fun _ after =>
      route.Refits (route.finalizers ++ [finalizer]) key w.routes after.routes := by
  refine ends_addFinalizerOnce_of (fun _ _ => .kept found rfl) (fun _ => .kept found rfl)
    (fun _ _ _ => .kept found rfl) fun stored found' _ => ?_
  cases found.symm.trans found'
  exact ends_request_mayFail.2 ⟨refits_merge found _, fun _ => .kept found rfl⟩

/-- The finalizer is appended once, however often it is attempted. -/
theorem ends_addFinalizer_refits (config : Config) (found : w.routes.get key = some route) :
    (Reconcile.updating config (Reconcile.addFinalizerOnce key)).Ends mayFail w fun _ after =>
      route.Refits (route.finalizers ++ [finalizer]) key w.routes after.routes := by
  refine ends_updating_invariant config (fun mid refits => ?_) (.kept found rfl)
  have idle : (∀ stored, mid.routes.get key = some stored → stored.isManaged = true) →
      (Reconcile.addFinalizerOnce key).Ends mayFail mid fun _ after =>
        route.Refits (route.finalizers ++ [finalizer]) key w.routes after.routes :=
    fun held => (ends_addFinalizerOnce_idle held).mono fun _ after same => same ▸ refits
  cases refits with
  | kept stored mark =>
    exact (ends_addFinalizerOnce_refits stored).mono fun _ _ refits => refits.of_mark mark
  | written version stored =>
    refine idle fun known found' => ?_
    cases stored.symm.trans found'
    simp [Object.isManaged, Object.finalizers, Object.refinalized, Metadata.finalizerList]
  | released deleting none_left gone => simp at none_left
  | vanished vanishes =>
    refine idle fun known found' => ?_
    cases vanishes.gone.symm.trans found'

/-- A route that is not held, or gone, is not written. -/
theorem ends_removeFinalizerOnce_idle
    (unheld : ∀ stored, w.routes.get key = some stored → stored.isManaged = false) :
    (Reconcile.removeFinalizerOnce key).Ends mayFail w fun _ after => after = w := by
  refine ends_removeFinalizerOnce_of (fun _ _ => rfl) (fun _ => rfl) (fun _ _ _ => rfl)
    fun stored found managed => ?_
  cases managed.symm.trans (unheld stored found)

/-- An attempt at letting a route go takes out the finalizer, or has written nothing. -/
theorem ends_removeFinalizerOnce_refits (found : w.routes.get key = some route) :
    (Reconcile.removeFinalizerOnce key).Ends mayFail w fun _ after =>
      route.Refits (Reconcile.released route.finalizers) key w.routes after.routes := by
  refine ends_removeFinalizerOnce_of (fun _ _ => .kept found rfl) (fun _ => .kept found rfl)
    (fun _ _ _ => .kept found rfl) fun stored found' _ => ?_
  cases found.symm.trans found'
  exact ends_request_mayFail.2 ⟨refits_merge found _, fun _ => .kept found rfl⟩

/-- The finalizers are taken out once, however often it is attempted. -/
theorem ends_removeFinalizer_refits (config : Config) (found : w.routes.get key = some route) :
    (Reconcile.updating config (Reconcile.removeFinalizerOnce key)).Ends mayFail w fun _ after =>
      route.Refits (Reconcile.released route.finalizers) key w.routes after.routes := by
  refine ends_updating_invariant config (fun mid refits => ?_) (.kept found rfl)
  have idle : (∀ stored, mid.routes.get key = some stored → stored.isManaged = false) →
      (Reconcile.removeFinalizerOnce key).Ends mayFail mid fun _ after =>
        route.Refits (Reconcile.released route.finalizers) key w.routes after.routes :=
    fun unheld => (ends_removeFinalizerOnce_idle unheld).mono fun _ after same => same ▸ refits
  cases refits with
  | kept stored mark =>
    exact (ends_removeFinalizerOnce_refits stored).mono fun _ _ refits => refits.of_mark mark
  | written version stored =>
    refine idle fun known found' => ?_
    cases stored.symm.trans found'
    simp [Object.isManaged, Object.finalizers, Object.refinalized, Metadata.finalizerList,
      Reconcile.released]
  | released deleting none_left gone =>
    refine idle fun known found' => ?_
    cases gone.symm.trans found'
  | vanished vanishes =>
    refine idle fun known found' => ?_
    cases vanishes.gone.symm.trans found'

-- ================================================================= event

/-- What may have become of the route of an event. -/
inductive Object.Fate (route : Route) (key : ObjectRef) (before after : Store RouteSpec) : Prop
  | kept (stored : after.get key = some route)
  /-- The finalizer was added. -/
  | held (unmanaged : route.isManaged = false) (version : String)
    (stored : after.get key
      = some (route.refinalized (route.finalizers ++ [finalizer]) (some version)))
  /-- Its gateway was recorded. -/
  | recorded (enabled : route.settings.enabled = true) (current : ObjectRef) (version : String)
    (stored : after.get key = some ((route.recorded key current).withVersion version))
  /-- The finalizer was removed, and others hold the route. -/
  | released (deleting : route.isDeleting = true) (version : String)
    (stored : after.get key
      = some (route.refinalized (Reconcile.released route.finalizers) (some version)))
  /-- The finalizer was removed, and nothing else held the route. -/
  | gone (deleting : route.isDeleting = true) (managed : route.isManaged = true)
    (only : Reconcile.released route.finalizers = []) (missing : after.get key = none)
  | vanished (vanishes : before.Vanishes after key)

section Event

variable {current : ObjectRef}

/-- A deleting route is let go, or is kept. -/
theorem ends_finalize_fate (config : Config) (found : w.routes.get key = some route)
    (deleting : route.isDeleting = true) (managed : route.isManaged = true) :
    (Reconcile.finalize config key route).Ends mayFail w fun _ after =>
      route.Fate key w.routes after.routes := by
  have fate : ∀ {after : Store RouteSpec},
      route.Refits (Reconcile.released route.finalizers) key w.routes after →
      route.Fate key w.routes after := by
    intro after refits
    cases refits with
    | kept stored mark => exact .kept stored
    | written version stored => exact .released deleting version stored
    | released _ none_left gone => exact .gone deleting managed none_left gone
    | vanished vanishes => exact .vanished vanishes
  rw [Reconcile.finalize_eq]
  refine (ends_mapError.2 (ends_refreshAll _ w)).bind
    (P := fun _ mid => Cluster.Refreshes w mid (Reconcile.formerGateways route))
    (fun _ mid left => ?_) fun e mid left => .kept (by rw [left.routes, found])
  have found' : mid.routes.get key = some route := by rw [left.routes, found]
  have removed := ends_removeFinalizer_refits config found'
  rw [left.routes] at removed
  exact removed.bind (fun _ _ refits => fate refits) fun _ _ refits => fate refits

/-- A live route has its gateway recorded, or is kept. -/
theorem ends_record_fate (config : Config) (found : w.routes.get key = some route)
    (live : route.isDeleting = false) (enabled : route.settings.enabled = true) :
    (Reconcile.record config key route current).Ends mayFail w fun _ after =>
      route.Fate key w.routes after.routes := by
  refine ends_record_of (fun _ => .kept found) fun _ => ?_
  rw [ends_request_mayFail, perform_apply_bookkeeping found]
  refine ⟨.recorded enabled current w.routes.versionText ?_, fun _ => .kept found⟩
  exact (get_replace_recorded live w.routes key current key).trans (if_pos rfl)

/-- A live route is held or recorded, or is kept; ensuring its gateway does not touch
it. -/
theorem ends_serve_fate (config : Config) (found : w.routes.get key = some route)
    (live : route.isDeleting = false) (enabled : route.settings.enabled = true) :
    (Reconcile.serve config key route current).Ends mayFail w fun _ after =>
      route.Fate key w.routes after.routes := by
  refine Reconcile.serve_elim config key route current (fun unmanaged => ?_) fun managed => ?_
  · have fate : ∀ {after : Store RouteSpec},
        route.Refits (route.finalizers ++ [finalizer]) key w.routes after →
        route.Fate key w.routes after := by
      intro after refits
      cases refits with
      | kept stored mark => exact .kept stored
      | written version stored => exact .held unmanaged version stored
      | released deleting none_left gone => cases live.symm.trans deleting
      | vanished vanishes => exact .vanished vanishes
    exact (ends_addFinalizer_refits config found).bind (fun _ _ refits => fate refits)
      fun _ _ refits => fate refits
  · refine (ends_record_fate config found live enabled).bind (fun _ mid fate => ?_)
      fun _ _ fate => fate
    rw [ends_bind, ends_mapError]
    refine (ends_ensure config _).mono fun result after ⟨ensured, _⟩ => ?_
    rw [← ensured.routes] at fate
    cases result <;> exact fate

/-- Leaving the former gateway does not touch the route either. -/
theorem ends_attach_fate (config : Config) (found : w.routes.get key = some route)
    (live : route.isDeleting = false) (enabled : route.settings.enabled = true) :
    (Reconcile.attach config key route current).Ends mayFail w fun _ after =>
      route.Fate key w.routes after.routes := by
  rw [attach_eq]
  refine (ends_leavePrevious route current w).bind (fun _ mid left => ?_)
    fun e mid left => .kept (by rw [left.routes, found])
  have found' : mid.routes.get key = some route := by rw [left.routes, found]
  exact left.routes ▸ ends_serve_fate config found' live enabled

/-- There is no other fate for the route of an event. -/
theorem ends_handle_fate (config : Config) (found : w.routes.get key = some route) :
    (Reconcile.handle config key route).Ends mayFail w fun _ after =>
      route.Fate key w.routes after.routes := by
  refine Reconcile.handle_elim config key route (fun deleting managed => ?_)
    (fun _ _ => .kept found) (fun _ _ _ => .kept found) (fun _ _ _ => .kept found)
    fun current live enabled _ => ?_
  · exact ends_finalize_fate config found deleting managed
  · exact ends_attach_fate config found live enabled

end Event

/-- The second route is written as the first one, but for the version, the bookkeeping
and the finalizers; of those the operator's own may have come or gone. -/
structure Object.Tended (route route' : Route) : Prop where
  besides : route'.toJson.besides tendedPaths = route.toJson.besides tendedPaths
  finalizers : route'.metadata.finalizers = route.metadata.finalizers
    ∨ (route.isManaged = false
      ∧ route'.metadata.finalizers = some (route.finalizers ++ [finalizer]))
    ∨ (route.isDeleting = true
      ∧ route'.metadata.finalizers = some (Reconcile.released route.finalizers))

/-- Objects that differ in what the operator writes are written alike elsewhere. -/
theorem Object.besides_of_untended {σ : Type} [Spec σ] {o o' : Object σ}
    (same : o'.untended = o.untended) :
    o'.toJson.besides tendedPaths = o.toJson.besides tendedPaths := by
  rw [besides_tendedPaths, besides_tendedPaths, same]

namespace Object.Fate

variable {before after : Store RouteSpec}

/-- Where the route is still there, the operator has written what it may write. -/
theorem tended (h : route.Fate key before after) (housed : route.HousedAt key) {route' : Route}
    (stored' : after.get key = some route') : route.Tended route' := by
  cases h with
  | kept stored =>
    cases stored.symm.trans stored'
    exact ⟨rfl, .inl rfl⟩
  | held unmanaged version stored =>
    cases stored.symm.trans stored'
    exact ⟨besides_of_untended rfl, .inr (.inl ⟨unmanaged, rfl⟩)⟩
  | recorded enabled current version stored =>
    cases stored.symm.trans stored'
    exact ⟨besides_of_untended (untended_recorded housed enabled current), .inl rfl⟩
  | released deleting version stored =>
    cases stored.symm.trans stored'
    exact ⟨besides_of_untended rfl, .inr (.inr ⟨deleting, rfl⟩)⟩
  | gone deleting managed only missing => cases missing.symm.trans stored'
  | vanished vanishes => cases vanishes.gone.symm.trans stored'

/-- Where the route is gone, it was let go or another writer removed it. -/
theorem gone_cases (h : route.Fate key before after) (missing : after.get key = none) :
    (route.isDeleting = true ∧ route.isManaged = true
        ∧ ∀ name ∈ route.finalizers, name = finalizer)
      ∨ before.Vanishes after key := by
  cases h with
  | kept stored => cases missing.symm.trans stored
  | held unmanaged version stored => cases missing.symm.trans stored
  | recorded enabled current version stored => cases missing.symm.trans stored
  | released deleting version stored => cases missing.symm.trans stored
  | gone deleting managed only missing' =>
    refine .inl ⟨deleting, managed, fun name listed => ?_⟩
    simpa using List.filter_eq_nil_iff.1 only name listed
  | vanished vanishes => exact .inr vanishes

end Object.Fate

/-- All that differs is the route under the key, in what the operator writes there, and
gateways that this route mentions. The route is gone only if nothing but the
operator's finalizer held it, or another writer's removal of it was due. -/
structure Cluster.KeepsAllElse (w after : Cluster) (key : ObjectRef) : Prop where
  routes : ∀ other, other ≠ key → after.routes.get other = w.routes.get other
  gateways : ∀ target, (∀ route, w.routes.get key = some route →
      route.parent? ≠ some target ∧ route.settings.previous? ≠ some target) →
    after.gateways.get target = w.gateways.get target
  missing : w.routes.get key = none → after.routes.get key = none
  own : ∀ route, w.routes.get key = some route → ∀ route', after.routes.get key = some route' →
    route.Tended route'
  gone : ∀ route, w.routes.get key = some route → after.routes.get key = none →
    (route.isDeleting = true ∧ route.isManaged = true
        ∧ ∀ name ∈ route.finalizers, name = finalizer)
      ∨ w.routes.Vanishes after.routes key

/-- What has not changed is kept. -/
theorem Cluster.KeepsAllElse.refl (w : Cluster) (key : ObjectRef) : w.KeepsAllElse w key where
  routes _ _ := rfl
  gateways _ _ := rfl
  missing missing := missing
  own route found route' found' := by
    cases found.symm.trans found'
    exact ⟨rfl, .inl rfl⟩
  gone route found missing := nomatch found.symm.trans missing

/-- The phases of an event keep all else, and its route has one of the fates. -/
theorem Cluster.KeepsAllElse.of_effect {config : Config} {after : Cluster}
    (found : w.routes.get key = some route) (housed : route.HousedAt key)
    (effect : Effect config key route w after) (fate : route.Fate key w.routes after.routes) :
    w.KeepsAllElse after key where
  routes := (effect.keepsRoutes found).others
  gateways target unmentioned := by
    obtain ⟨notParent, notPrevious⟩ := unmentioned route found
    by_contra changed
    obtain ⟨leaves, -, -⟩ | ⟨parent, -⟩ := effect.change found changed
    · obtain ⟨-, -, former⟩ | ⟨-, -, current, -, left⟩ := leaves
      · exact (Reconcile.mem_formerGateways.1 former).elim notParent notPrevious
      · exact notPrevious (leftGateway?_eq_some left).2
    · exact notParent parent
  missing missing := nomatch found.symm.trans missing
  own known found' route' stored := by
    cases found.symm.trans found'
    exact fate.tended housed stored
  gone known found' missing := by
    cases found.symm.trans found'
    exact fate.gone_cases missing

/-- Whatever fails, an event leaves all other routes and all gateways that its route
does not mention as they were; of its route, if that is stored under its own names, it
changes what the operator writes there and nothing else. -/
theorem event_keeps_all_else (config : Config) {w : Cluster} (faultsOnly : w.FaultsOnly)
    {key : ObjectRef}
    (housed : ∀ route, w.routes.get key = some route → route.HousedAt key) :
    w.KeepsAllElse ((reconcile config key).run w).cluster key := by
  have ends : (reconcile config key).Ends mayFail w.unplanned fun _ after =>
      w.unplanned.KeepsAllElse after key := by
    refine ends_reconcile_of_handle (fun _ => .refl _ _) (fun route found => ?_)
      fun _ _ => .refl _ _
    have handled := (ends_handle (w := w.unplanned) config found (housed route found).ref).and
      (ends_handle_fate config found)
    exact handled.mono fun _ _ ⟨effect, fate⟩ => .of_effect found (housed route found) effect fate
  obtain ⟨routes, gateways, missing, own, gone⟩ := run_of_faultsOnly faultsOnly ends
  exact ⟨routes, gateways, missing, own, gone⟩

/-- The departing route is stored under its own names. -/
theorem departing_housed : ∀ route, departing.routes.get ⟨"apps", "first"⟩ = some route →
    route.HousedAt ⟨"apps", "first"⟩ := by
  intro route found
  have stored : departing.routes.get ⟨"apps", "first"⟩ = some departing.leaver := by
    decide +kernel
  cases stored.symm.trans found
  exact ⟨rfl, rfl⟩

/-- The departing route loses one of its two finalizers and nothing else; the route
beside it stays as it is. -/
theorem departing_keeps_all_else :
    let after := ((reconcile .standard ⟨"apps", "first"⟩).run departing).cluster
    after.routes.get ⟨"apps", "second"⟩ = departing.routes.get ⟨"apps", "second"⟩
      ∧ ∃ route', after.routes.get ⟨"apps", "first"⟩ = some route'
        ∧ departing.leaver.Tended route' ∧ route'.finalizers = ["example.com/backup"] := by
  intro after
  have keeps := event_keeps_all_else .standard departing_plans.1 departing_housed
  have left : (after.routes.get ⟨"apps", "first"⟩).map (·.finalizers)
      = some ["example.com/backup"] := by
    decide +kernel
  obtain ⟨route', stored, finalizers⟩ := Option.map_eq_some_iff.1 left
  exact ⟨keeps.routes _ (by decide), route', stored,
    keeps.own departing.leaver (by decide +kernel) route' stored, finalizers⟩

end SharedGateway
