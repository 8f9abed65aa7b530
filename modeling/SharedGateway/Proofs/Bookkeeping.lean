/-
What the bookkeeping of a route names.

# A reference as a text

The gateway that a route attaches to is written down as text. The text is compared as
text where the route may have moved, and read as a reference where the route is let
go, so all depends on whether it is read back as the gateway that was written. It is,
if the namespace and the name are not empty and the namespace holds no slash; what is
written is always this text, and in one call (`bookkeepingText?_of_record`).

# What is done about it

Where the text is read back, a route has moved exactly if the two references differ,
and only then is the gateway that it names refreshed (`moments_leavePrevious`). When
the route is let go, both gateways are refreshed, and one that both name is refreshed
once. That is told from the calls: a sync reads its gateway once and no other, so a
script that syncs gateways in turn reads them in that order, up to its first failure
(`Script.ReadsInTurn`, `readsInTurn_finalize`). Like other facts about calls this
passes through sequences, and what only calls routes adds nothing to it.
-/
import SharedGateway.Proofs.References
import SharedGateway.Proofs.WriteAhead

namespace SharedGateway

open Script

-- ============================================================ the text

/-- The bookkeeping text that a call applies to its route. -/
def Call.bookkeepingText? : Call → Option String
  | .routes (.apply _ value _) => do
    let metadata ← value.get? "metadata"
    let annotations ← metadata.get? "annotations"
    let text ← annotations.get? AnnotationKey.previousGateway
    text.text?
  | _ => none

section Route

variable {config : Config} {key current previous : ObjectRef} {route : Route} {text : String}
  {w : Cluster}

/-- The bookkeeping that is applied carries the text of its gateway. -/
theorem bookkeepingText?_bookkeeping (key current : ObjectRef) (manager : String) :
    Call.bookkeepingText? (.routes (.apply key (Reconcile.bookkeeping key current) manager))
      = some current.toText := by
  simp [Call.bookkeepingText?, Reconcile.bookkeeping, Json.get?_object, Json.text?,
    AnnotationKey.reconciled, AnnotationKey.previousGateway]

/-- Recording a gateway makes one call at most, which applies the gateway's text. -/
theorem bookkeepingText?_of_record {m : Moment}
    (made : m ∈ ((Reconcile.record config key route current).run w).moments) :
    m.call.bookkeepingText? = some current.toText := by
  revert made
  refine Reconcile.record_elim config key route current
    (J := fun s => m ∈ (s.run w).moments → m.call.bookkeepingText? = some current.toText)
    (fun _ made => nomatch made) fun _ made => ?_
  unfold Routes.apply at made
  rw [lift_store_event, moments_request_last _ _ fun _ _ => rfl] at made
  rw [List.mem_singleton.1 made]
  exact bookkeepingText?_bookkeeping key current _

/-- A text that is no reference but the empty one is in the settings as it stands. -/
theorem previousGateway_of_annotated
    (annotated : route.annotated? AnnotationKey.previousGateway = some text)
    (nonempty : text ≠ "") : route.settings.previousGateway = some text := by
  rw [Object.annotated?_eq] at annotated
  show RouteSettings.declared? _ _ = some text
  rw [RouteSettings.declared?, annotated]
  simp [nonempty]

/-- A text that is read as a reference is in the settings, and is read as that. -/
theorem previous?_of_annotated
    (annotated : route.annotated? AnnotationKey.previousGateway = some text)
    (read : ObjectRef.ofText? text = some previous) :
    route.settings.previousGateway = some text ∧ route.settings.previous? = some previous := by
  have nonempty : text ≠ "" := by
    rw [← ObjectRef.toText_of_ofText? read]
    exact previous.toText_ne_empty
  have kept := previousGateway_of_annotated annotated nonempty
  exact ⟨kept, by rw [RouteSettings.previous?, kept, Option.bind_some, read]⟩

-- =============================================================== moving

/-- The text that names the gateway of the route, and what it is read as. -/
structure Object.Names (route : Route) (text : String) (previous : ObjectRef) : Prop where
  annotated : route.annotated? AnnotationKey.previousGateway = some text
  read : ObjectRef.ofText? text = some previous

/-- Texts that are read back are compared as the references that they name. -/
theorem leftGateway?_of_names (names : route.Names text previous) (plain : current.Plain) :
    Reconcile.leftGateway? route current = if previous = current then none else some previous := by
  obtain ⟨kept, former⟩ := previous?_of_annotated names.annotated names.read
  have same := plain.eq_toText_iff names.read
  rw [Reconcile.leftGateway?, kept, former]
  simp only [Option.some.injEq, same]

/-- The gateway that is named is refreshed if it is another one, and no call is made
else. -/
theorem moments_leavePrevious (names : route.Names text previous) (plain : current.Plain)
    (w : Cluster) : ((Reconcile.leavePrevious route current).run w).moments
      = if previous = current then [] else ((Sync.refresh previous).run w).moments := by
  have left := leftGateway?_of_names names plain
  by_cases same : previous = current
  · rw [if_pos same] at left ⊢
    rw [Reconcile.leavePrevious_of_stays left]
    rfl
  · rw [if_neg same] at left ⊢
    rw [Reconcile.leavePrevious_of_leaves left, moments_attempt_bind]
    exact List.append_nil _

-- ============================================================== letting go

/-- A gateway that both name is listed once. -/
theorem formerGateways_of_names (names : route.Names text previous)
    (parent : route.parent? = some current) : Reconcile.formerGateways route
      = if previous = current then [current] else [previous, current] := by
  obtain ⟨-, former⟩ := previous?_of_annotated names.annotated names.read
  rw [Reconcile.formerGateways, former, parent]
  by_cases same : previous = current
  · simp [same]
  · simp [same, Ne.symm same]

end Route

/-- The gateway that a call reads. -/
def Call.gatewayRead? : Call → Option ObjectRef
  | .gateways (.get target) => some target
  | _ => none

/-- The gateways that are read, in the order of the calls. -/
def gatewaysRead (moments : List Moment) : List ObjectRef :=
  moments.filterMap (·.call.gatewayRead?)

/-- A sync reads its gateway, once. -/
theorem Sync.Trace.reads {target : ObjectRef} {moments : List Moment}
    (trace : Sync.Trace target moments) : gatewaysRead moments = [target] := by
  cases trace with
  | read met reply => rfl
  | listed met met' reply listing => rfl
  | written read write met listing backs => cases backs <;> rfl

/-- The script reads the gateways in this order, up to its first failure. -/
structure Script.ReadsInTurn {ε α : Type} (targets : List ObjectRef) (s : Script ε α) : Prop where
  before : ∀ w, gatewaysRead (s.run w).moments <+: targets
  all : ∀ w a, (s.run w).result = .ok a → gatewaysRead (s.run w).moments = targets

section Reads

variable {ε ε' α β : Type} {targets targets' : List ObjectRef} {s : Script ε α}

theorem Script.ReadsInTurn.of_eq (reads : ∀ w, gatewaysRead (s.run w).moments = targets) :
    s.ReadsInTurn targets :=
  ⟨fun w => (reads w).symm ▸ List.prefix_refl _, fun w _ _ => reads w⟩

/-- Calls on routes read no gateway. -/
theorem Script.ReadsInTurn.of_makes (onRoutes : s.Makes fun c => c.kind = .httpRoute) :
    s.ReadsInTurn [] := by
  refine .of_eq fun w => List.filterMap_eq_nil_iff.2 fun m made => ?_
  have about := onRoutes.moments w m made
  cases call : m.call with
  | routes request => rfl
  | gateways request =>
    rw [call] at about
    cases about

/-- Renamed errors read no gateway. -/
theorem Script.ReadsInTurn.mapError (h : s.ReadsInTurn targets) (g : ε → ε') :
    (s.mapError g).ReadsInTurn targets where
  before w := by
    rw [moments_mapError]
    exact h.before w
  all w a ended := by
    rw [moments_mapError]
    rw [run_mapError] at ended
    cases result : (s.run w).result with
    | ok a => exact h.all w a result
    | error e =>
      dsimp only [Run.map] at ended
      rw [result] at ended
      cases ended

/-- One after the other, two scripts read what each reads by itself. -/
theorem Script.ReadsInTurn.bind {f : α → Script ε β} (first : s.ReadsInTurn targets)
    (rest : ∀ a, (f a).ReadsInTurn targets') : (s >>= f).ReadsInTurn (targets ++ targets') := by
  have both : ∀ w a, (s.run w).result = .ok a → gatewaysRead ((s >>= f).run w).moments
      = targets ++ gatewaysRead ((f a).run (s.run w).cluster).moments := by
    intro w a ended
    rw [run_bind, ended]
    exact (List.filterMap_append ..).trans (congrArg (· ++ _) (first.all w a ended))
  refine ⟨fun w => ?_, fun w b ended => ?_⟩
  · cases result : (s.run w).result with
    | ok a =>
      rw [both w a result]
      exact (List.prefix_append_right_inj targets).2 ((rest a).before _)
    | error e =>
      rw [run_bind, result]
      exact (first.before w).trans (List.prefix_append targets targets')
  · obtain ⟨a, result, ended⟩ := result_bind_eq_ok ended
    rw [both w a result, (rest a).all _ b ended]

end Reads

/-- Refreshes in turn read their gateways in turn. -/
theorem readsInTurn_refreshAll (targets : List ObjectRef) :
    (Reconcile.refreshAll targets).ReadsInTurn targets := by
  induction targets with
  | nil => exact .of_eq fun _ => rfl
  | cons target rest ih =>
    have first : (Sync.refresh target).ReadsInTurn [target] :=
      .of_eq fun w => (trace_refresh target w).reads
    exact first.bind fun _ => ih

/-- A route is let go after its gateways are refreshed; its finalizer is on no
gateway. -/
theorem readsInTurn_finalize (config : Config) (key : ObjectRef) (route : Route) :
    (Reconcile.finalize config key route).ReadsInTurn (Reconcile.formerGateways route) := by
  have released : (Reconcile.updating config (Reconcile.removeFinalizerOnce key)
      >>= fun _ => pure Outcome.finalized).ReadsInTurn [] :=
    .of_makes ((makes_updating config (attempt_removeFinalizerOnce key).routes).bind
      fun _ => trivial)
  have both := ((readsInTurn_refreshAll (Reconcile.formerGateways route)).mapError
    ReconcileError.ofSync).bind fun _ => released
  rw [List.append_nil] at both
  exact both

-- ========================================================== both together

open ObjectRef (ofText) in
/-- References round-trip where namespace and name are not empty and the namespace
holds no slash, and nowhere else. So for a route that attaches to such a gateway, the
text that is written for it is read back as it, from the call and from the stored
route. And whatever reference its bookkeeping is read as, the route has moved exactly
if that is another one, and if not, letting it go refreshes the gateway just once. -/
theorem bookkeeping_names_gateways :
    (∀ text ref, ofText text = .ok ref →
      ref.ns ≠ "" ∧ '/' ∉ ref.ns.toList ∧ ref.name ≠ "" ∧ ref.toText = text)
    ∧ (∀ ref : ObjectRef, ofText ref.toText = .ok ref
      ↔ ref.ns ≠ "" ∧ '/' ∉ ref.ns.toList ∧ ref.name ≠ "")
    ∧ ∀ (config : Config) (key : ObjectRef) (route : Route) (current : ObjectRef),
      route.parent? = some current →
      current.ns ≠ "" → '/' ∉ current.ns.toList → current.name ≠ "" →
      (∀ w, ∀ m ∈ ((Reconcile.record config key route current).run w).moments,
        ∃ text, m.call.bookkeepingText? = some text ∧ ofText text = .ok current)
      ∧ (∀ w : Cluster, w.FaultsOnly → w.routes.get key = some route →
        route.isDeleting = false → route.isManaged = true →
        let run := (Reconcile.record config key route current).run w
        run.result = .ok () → ∃ stored, run.cluster.routes.get key = some stored
          ∧ stored.settings.previous? = some current)
      ∧ ∀ text previous, route.annotated? AnnotationKey.previousGateway = some text →
        ofText text = .ok previous →
        (text ≠ current.toText ↔ previous ≠ current)
        ∧ (∀ w, ((Reconcile.leavePrevious route current).run w).moments
          = if previous = current then [] else ((Sync.refresh previous).run w).moments)
        ∧ ∀ w, let run := (Reconcile.finalize config key route).run w
          let targets := if previous = current then [current] else [previous, current]
          gatewaysRead run.moments <+: targets
            ∧ ∀ outcome, run.result = .ok outcome → gatewaysRead run.moments = targets := by
  refine ⟨fun text ref read => ?_, fun ref => ?_,
    fun config key route current parent ns slashFree name => ?_⟩
  · obtain ⟨plain, written⟩ := ObjectRef.ofText?_eq_some_iff.1 (ObjectRef.ofText?_eq_some.2 read)
    exact ⟨plain.ns, plain.slashFree, plain.name, written⟩
  · rw [← ObjectRef.ofText?_eq_some, ObjectRef.ofText?_eq_some_iff]
    exact ⟨fun ⟨plain, _⟩ => ⟨plain.ns, plain.slashFree, plain.name⟩,
      fun ⟨ns, slashFree, name⟩ => ⟨⟨ns, slashFree, name⟩, rfl⟩⟩
  -- from here on the text of the gateway is read back as the gateway
  have plain : current.Plain := ⟨ns, slashFree, name⟩
  have readBack := ObjectRef.ofText?_toText plain
  refine ⟨fun w m made => ?_, fun w faultsOnly found live managed => ?_,
    fun text previous annotated read => ?_⟩
  · exact ⟨_, bookkeepingText?_of_record made, ObjectRef.ofText?_eq_some.1 readBack⟩
  · intro run ended
    obtain ⟨stored, found', -, -, named⟩ := run_of_faultsOnly faultsOnly
      (ends_record_announces (w := w.unplanned) config found live managed) ended
    exact ⟨stored, found', (previous?_of_annotated (named live).1 readBack).2⟩
  · have names : route.Names text previous := ⟨annotated, ObjectRef.ofText?_eq_some.2 read⟩
    have finalizes := readsInTurn_finalize config key route
    rw [formerGateways_of_names names parent] at finalizes
    exact ⟨not_congr (plain.eq_toText_iff names.read), moments_leavePrevious names plain,
      fun w => ⟨finalizes.before w, finalizes.all w⟩⟩

/-- A route that has moved is recorded at its new gateway, which another event reads
back; the old one is named by another text and another reference, and is refreshed. -/
theorem moved_bookkeeping_names_both :
    let old : ObjectRef := ⟨"infra", "old"⟩
    let new : ObjectRef := ⟨"infra", "new"⟩
    let recorded := (Reconcile.record .standard ⟨"apps", "first"⟩ moving.moved new).run moving
    let left := (Reconcile.leavePrevious moving.moved new).run moving
    (∃ stored, recorded.cluster.routes.get ⟨"apps", "first"⟩ = some stored
        ∧ stored.settings.previous? = some new)
      ∧ ("infra/old" ≠ new.toText ↔ old ≠ new)
      ∧ left.moments = ((Sync.refresh old).run moving).moments
      ∧ gatewaysRead ((Reconcile.finalize .standard ⟨"apps", "first"⟩ moving.moved).run
          moving).moments <+: [old, new] := by
  intro old new recorded left
  obtain ⟨-, stored, moves⟩ := bookkeeping_names_gateways.2.2 .standard ⟨"apps", "first"⟩
    moving.moved new rfl (by decide) (by decide) (by decide)
  obtain ⟨compared, leaves, lets⟩ := moves "infra/old" old (by decide) (by rfl)
  exact ⟨stored moving moving_faultsOnly rfl rfl rfl (by decide +kernel), compared,
    leaves moving, (lets moving).1⟩

end SharedGateway
