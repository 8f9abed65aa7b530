/-
A route that leaves its gateway.

# Ways out

Each way out of an event is looked at for what it leaves on the gateway that the
route's bookkeeping names (`Cluster.Departs`). Where the event sees to the gateway at
all, it leaves it in line: it refreshes it when the route is let go or has moved, and
ensures it when the route still attaches to it. The other ways out write nothing, so
that a route which is switched off, detached, or deleted while the operator does not
hold it stays listed until something else brings its gateway in line
(`departed_gateway_in_line`). An event that only held its route is no way out: it
comes again.

One more exception comes from the form of the bookkeeping. A route has moved if the
text that it carries differs from that of its gateway; two gateways of one text, cut
at different slashes, are taken for the same, and the old one is not refreshed.

# In line at the end

That a refreshed gateway is in line when the event ends takes more than the refresh:
what follows must leave it alone. The route that has moved is then served by another
gateway, and contributes nothing to the old one (`ends_serve_inLine`); this is why
the two are told apart before.

# Exceptions

Each exception is an event in a calm cluster that ends well and leaves a listener
that nobody wants (`Cluster.Strands`, `departed_routes_stay_listed`). The last of
them is about a route that is stored under another name than its own, which the
theorem leaves out by assumption.
-/
import SharedGateway.Proofs.CalmEvent
import SharedGateway.Proofs.ExactSync
import SharedGateway.Proofs.Migration
import SharedGateway.Proofs.Release

namespace SharedGateway

open Cluster (performs honest)
open Script

variable {w : Cluster} {key former current : ObjectRef} {route : Route}

-- ============================================================ outcomes

/-- The event did nothing for the route: it is switched off, attaches to nothing,
or is deleting and not held. -/
def Object.PassedOver (route : Route) (outcome : Outcome) : Prop :=
  (outcome = .disabled ∧ route.settings.enabled = false)
    ∨ (outcome = .noParentRef ∧ route.parent? = none)
    ∨ (outcome = .finalized ∧ route.isDeleting = true ∧ route.isManaged = false)

/-- What an event that ends well leaves of the gateway that the bookkeeping of its
route names. -/
inductive Cluster.Departs (route : Route) (former : ObjectRef) (outcome : Outcome)
    (w after : Cluster) : Prop
  /-- The gateway is in line with the routes. -/
  | inLine (inLine : after.InLine former)
  /-- Nothing was done. -/
  | passedOver (same : after = w) (passed : route.PassedOver outcome)
  /-- The bookkeeping was taken for the gateway that the route attaches to, whose
  text is the same. -/
  | mistaken (current : ObjectRef) (s : SyncOutcome) (synced : outcome = .synced s)
    (parent : route.parent? = some current) (differ : former ≠ current)
    (text : former.toText = current.toText)

open Cluster (Departs)

-- ============================================================== phases

/-- The gateway that a route has moved away from is in line before the route is
served. -/
theorem ends_leavePrevious_inLine (calm : w.Calm)
    (leaving : Reconcile.leftGateway? route current = some former) :
    (Reconcile.leavePrevious route current).Ends performs w fun _ after =>
      after.routes = w.routes ∧ after.InLine former := by
  refine ends_leavePrevious_of (fun stays => nomatch stays.symm.trans leaving)
    fun previous left => ?_
  cases left.symm.trans leaving
  refine ((ends_refresh_yields calm).and (ends_performs_of_honest ends_refresh_inLine)).mono
    fun result after refreshed => ?_
  obtain ⟨⟨⟨outcome, rfl⟩, yields⟩, inLine⟩ := refreshed
  exact ⟨yields.routes, inLine⟩

/-- A route is served with success when it was held, or when its gateway is in
line. -/
theorem ends_serve_settled (config : Config) (found : w.routes.get key = some route)
    (filed : route.ref = key) (live : route.isDeleting = false) (current : ObjectRef) :
    (Reconcile.serve config key route current).Ends honest w fun result after =>
      ∀ outcome, result = .ok outcome →
        outcome = .finalizerAdded ∨ ((∃ s, outcome = .synced s) ∧ after.InLine current) := by
  refine Reconcile.serve_elim config key route current (fun _ => ?_) fun _ => ?_
  · refine (ends_honest (ends_addFinalizer config w key)).bind (fun _ after _ => ?_)
      fun e after _ => nofun
    intro outcome ok
    cases ok
    exact .inl rfl
  · refine (ends_honest (ends_record config found filed live)).bind (fun _ recorded _ => ?_)
      fun e after _ => nofun
    rw [ends_bind, ends_mapError]
    refine (ends_ensure_inLine config _).mono fun result after inLine => ?_
    cases result with
    | error e => exact nofun
    | ok s =>
      intro outcome ok
      cases ok
      exact .inr ⟨⟨s, rfl⟩, inLine⟩

/-- A live route departs from a gateway that it has moved away from, or ensures it. -/
theorem ends_attach_departs (config : Config) (calm : w.Calm)
    (found : w.routes.get key = some route) (filed : route.ref = key)
    (live : route.isDeleting = false) (parent : route.parent? = some current)
    (named : route.settings.previous? = some former) :
    (Reconcile.attach config key route current).Ends performs w fun result after =>
      ∀ outcome, result = .ok outcome → outcome ≠ .finalizerAdded →
        Departs route former outcome w after := by
  rw [attach_eq]
  cases leaving : Reconcile.leftGateway? route current with
  | none =>
    -- nothing was left: the bookkeeping has the text of the present gateway
    have text := previousGateway_of_stays named leaving
    have unmoved : (Reconcile.leavePrevious route current).Ends performs w
        fun _ after => after = w :=
      ends_leavePrevious_of (fun _ => rfl) fun _ left => nomatch left.symm.trans leaving
    refine unmoved.bind (fun _ mid same => ?_) fun e mid _ => nofun
    subst same
    refine (ends_performs_of_honest
      (ends_serve_settled config found filed live current)).mono fun result after settled => ?_
    intro outcome ok other
    obtain ⟨⟨s, synced⟩, inLine⟩ := (settled outcome ok).resolve_left other
    by_cases same : former = current
    · exact .inLine (same ▸ inLine)
    -- the same text, and yet another gateway
    · obtain ⟨written, listed, read⟩ := Option.bind_eq_some_iff.1 named
      cases text.symm.trans listed
      exact .mistaken current s synced parent same (ObjectRef.toText_of_ofText? read)
  | some left =>
    obtain ⟨differ, named'⟩ := leftGateway?_eq_some leaving
    cases named'.symm.trans named
    refine (ends_leavePrevious_inLine calm leaving).bind (fun _ mid ⟨routes, inLine⟩ => ?_)
      fun e mid _ => nofun
    -- the old gateway is in line now, and stays so while the new one is served
    have found : mid.routes.get key = some route := by rw [routes, found]
    exact (ends_performs (Cluster.ends_serve_inLine config found filed live parent differ
      inLine)).mono fun result after inLine outcome _ _ => .inLine inLine

/-- All ways out of an event of a stored route. -/
theorem ends_handle_departs (config : Config) (calm : w.Calm)
    (found : w.routes.get key = some route) (filed : route.ref = key)
    (named : route.settings.previous? = some former) :
    (Reconcile.handle config key route).Ends performs w fun result after =>
      ∀ outcome, result = .ok outcome → outcome ≠ .finalizerAdded →
        Departs route former outcome w after := by
  have idle : ∀ outcome, route.PassedOver outcome →
      (pure outcome : Script ReconcileError Outcome).Ends performs w fun result after =>
        ∀ outcome, result = .ok outcome → outcome ≠ .finalizerAdded →
          Departs route former outcome w after := by
    intro outcome passed outcome' ok _
    cases ok
    exact .passedOver rfl passed
  refine Reconcile.handle_elim config key route (fun deleting managed => ?_)
    (fun _ disabled => idle .disabled (.inl ⟨rfl, disabled⟩))
    (fun deleting unmanaged _ => idle .finalized (.inr (.inr ⟨rfl, deleting, unmanaged⟩)))
    (fun _ _ detached => idle .noParentRef (.inr (.inl ⟨rfl, detached⟩)))
    fun current live _ parent => ends_attach_departs config calm found filed live parent named
  refine (ends_performs_of_honest (ends_finalize_released config found deleting managed)).mono
    fun result after released outcome ok _ => ?_
  exact .inLine ((released.1 outcome ok).2.inLine former (.inr named))

-- ============================================================ the event

/-- After an event in a calm cluster the gateway that the route's bookkeeping
names is in line with the routes, unless the event only held the route. There
are two exceptions: the route was passed over and nothing was written; or the
text of the bookkeeping is also that of the gateway that the route attaches to. -/
theorem departed_gateway_in_line (config : Config) {w : Cluster} (calm : w.Calm)
    {key : ObjectRef} {route : Route} (found : w.routes.get key = some route)
    (filed : route.ref = key) {former : ObjectRef}
    (named : route.settings.previous? = some former) {outcome : Outcome}
    (returned : ((reconcile config key).run w).result = .ok outcome)
    (settled : outcome ≠ .finalizerAdded) :
    Departs route former outcome w ((reconcile config key).run w).cluster := by
  have ends : (reconcile config key).Ends performs w fun result after =>
      ∀ outcome, result = .ok outcome → outcome ≠ .finalizerAdded →
        Departs route former outcome w after := by
    refine ends_reconcile_of_handle (fun missing => nomatch found.symm.trans missing)
      (fun known found' => ?_) nofun
    cases found.symm.trans found'
    exact ends_handle_departs config calm found filed named
  exact run_of_unplanned calm.unplanned ends outcome returned settled

/-- A route that holds the finalizer and has moved leaves the old gateway in
line: it is gone. -/
theorem moved_route_leaves_in_line :
    ((reconcile .standard ⟨"apps", "first"⟩).run moving.unplanned).cluster.InLine
      ⟨"infra", "old"⟩ := by
  have ended : ((reconcile .standard ⟨"apps", "first"⟩).run moving.unplanned).result
      = .ok (.synced .created) := by decide +kernel
  have departs := @departed_gateway_in_line .standard moving.unplanned
    ⟨fun _ => rfl, ⟨rfl, rfl, rfl⟩, ⟨rfl, rfl, rfl⟩⟩ ⟨"apps", "first"⟩ moving.moved rfl rfl
    ⟨"infra", "old"⟩ rfl (.synced .created) ended (by decide)
  cases departs with
  | inLine inLine => exact inLine
  | passedOver same passed => exact absurd passed (by simp [Object.PassedOver])
  | mistaken current s synced parent differ text =>
    cases parent
    exact absurd text (by decide)

-- =========================================================== exceptions

/-- A cluster with one route, and the gateway that the route's bookkeeping names,
which still lists the route's hostname. -/
def stranding (former : ObjectRef) (route : Route) : Cluster where
  routes := { objects := .ofList [(⟨"apps", "first"⟩, route)] }
  gateways := { objects := .ofList [
    (former, Gateway.recording former ⟨"internpki", "hnet-private"⟩ "eg"
      [.https "a.example.com" former.ns])] }

namespace stranding

/-- A route of one gateway whose bookkeeping names another. -/
def moved (parent : ObjectRef) (previous : String) (annotations : List (String × String))
    (finalizers : List String) : Route :=
  Route.optedIn ⟨"apps", "first"⟩ parent "a.example.com"
    ((AnnotationKey.reconciled, "true") :: (AnnotationKey.previousGateway, previous)
      :: annotations) finalizers

/-- The route is switched off. -/
def disabled : Route :=
  moved ⟨"infra", "old"⟩ "infra/old" [(AnnotationKey.enabled, "false")] [finalizer]

/-- The route attaches to nothing. -/
def detached : Route :=
  let route := moved ⟨"infra", "old"⟩ "infra/old" [] [finalizer]
  { route with spec := { route.spec with parents := [] } }

/-- Somebody else holds the route, but not the operator. -/
def unheld : Route :=
  (moved ⟨"infra", "old"⟩ "infra/old" [] ["example.com/backup"]).remarked
    (some Store.deletionTime) none

/-- The names of the two gateways are cut at different slashes of one text. -/
def ambiguous : Route :=
  moved ⟨"infra/edge", "new"⟩ "infra/edge/new" [] [finalizer]

theorem calm {former : ObjectRef} {route : Route} : (stranding former route).Calm :=
  ⟨fun _ => rfl, ⟨rfl, rfl, rfl⟩, ⟨rfl, rfl, rfl⟩⟩

/-- The route is stored under its own name, if it has that name. -/
theorem filed {former : ObjectRef} {route : Route} (own : route.ref = ⟨"apps", "first"⟩) :
    (stranding former route).Filed := by
  intro key known found
  have stored : (key, known) ∈ [(⟨"apps", "first"⟩, route)] := Table.find?_eq_some_iff.1 found
  cases List.mem_singleton.1 stored
  exact own

end stranding

/-- A route is stored in a namespace that its metadata does not name, and attaches
to a gateway of its own namespace. Its bookkeeping names the gateway that another
route of that namespace attaches to. -/
def mislaid : Cluster where
  routes := { objects := .ofList [
    (⟨"apps", "first"⟩, homeless),
    (⟨"apps", "second"⟩, Route.optedIn ⟨"apps", "second"⟩ ⟨"apps", "edge"⟩ "b.example.com" [] [])] }
  gateways := { objects := .ofList [
    (⟨"apps", "edge"⟩, Gateway.recording ⟨"apps", "edge"⟩ ⟨"internpki", "hnet-private"⟩ "eg"
      [.https "b.example.com" "apps"])] }
where
  homeless : Route :=
    let route := stranding.moved ⟨"", "edge"⟩ "apps/edge" [] [finalizer]
    { route with
      metadata := { route.metadata with ns := none }
      spec := { route.spec with parents := [{ name := "edge" }] } }

/-- Nothing disturbs the event of the route and it ends well, and yet the gateway
that the bookkeeping names keeps a listener that nobody wants. -/
structure Cluster.Strands (w : Cluster) (former : ObjectRef) (outcome : Outcome) : Prop where
  calm : w.Calm
  named : ∃ route, w.routes.get ⟨"apps", "first"⟩ = some route
    ∧ route.settings.previous? = some former
  ended : ((reconcile .standard ⟨"apps", "first"⟩).run w).result = .ok outcome
  listed : ¬ ((reconcile .standard ⟨"apps", "first"⟩).run w).cluster.InLine former

/-- A gateway with more listeners than are wanted is not in line. -/
theorem strands_of_unequal {former : ObjectRef} {route : Route} {outcome : Outcome}
    (calm : w.Calm) (found : w.routes.get ⟨"apps", "first"⟩ = some route)
    (named : route.settings.previous? = some former)
    (ended : ((reconcile .standard ⟨"apps", "first"⟩).run w).result = .ok outcome)
    (unequal :
      let after := ((reconcile .standard ⟨"apps", "first"⟩).run w).cluster
      (after.gateways.get former).map (fun gateway =>
        gateway.isDeleting || gateway.spec.listeners.length == (after.wanted former).length)
        = some false) :
    w.Strands former outcome := by
  refine ⟨calm, ⟨route, found, named⟩, ended, fun inLine => ?_⟩
  obtain ⟨gateway, there, lists⟩ := Option.map_eq_some_iff.1 unequal
  obtain ⟨live, differ⟩ := Bool.or_eq_false_iff.1 lists
  obtain perm | ⟨deleting, -⟩ := inLine gateway there
  · exact beq_eq_false_iff_ne.1 differ perm.length_eq
  · cases live.symm.trans deleting

/-- A route that is switched off, or detached, or deleted while the operator does
not hold it, stays listed, and so does one whose gateways have one text. A route
that is stored under another name than its own joins the gateway unlisted. -/
theorem departed_routes_stay_listed :
    (¬ ∀ (config : Config) (w : Cluster) (key former : ObjectRef) (route : Route)
      (outcome : Outcome), w.Calm → w.Filed → w.routes.get key = some route →
      route.settings.previous? = some former →
      ((reconcile config key).run w).result = .ok outcome → outcome ≠ .finalizerAdded →
      ((reconcile config key).run w).cluster.InLine former)
    ∧ (stranding ⟨"infra", "old"⟩ stranding.disabled).Strands ⟨"infra", "old"⟩ .disabled
    ∧ (stranding ⟨"infra", "old"⟩ stranding.detached).Strands ⟨"infra", "old"⟩ .noParentRef
    ∧ (stranding ⟨"infra", "old"⟩ stranding.unheld).Strands ⟨"infra", "old"⟩ .finalized
    ∧ (stranding ⟨"infra", "edge/new"⟩ stranding.ambiguous).Strands ⟨"infra", "edge/new"⟩
      (.synced .created)
    ∧ mislaid.Strands ⟨"apps", "edge"⟩ (.synced .absent) := by
  have disabled : (stranding ⟨"infra", "old"⟩ stranding.disabled).Strands ⟨"infra", "old"⟩
      .disabled :=
    strands_of_unequal stranding.calm rfl (by decide +kernel) (by decide +kernel)
      (by decide +kernel)
  refine ⟨fun claim => ?_, disabled, ?_, ?_, ?_, ?_⟩
  · obtain ⟨calm, ⟨route, found, named⟩, ended, listed⟩ := disabled
    exact listed (claim _ _ _ _ route _ calm (stranding.filed rfl) found named ended
      (by decide))
  · exact strands_of_unequal stranding.calm rfl (by decide +kernel) (by decide +kernel)
      (by decide +kernel)
  · exact strands_of_unequal stranding.calm rfl (by decide +kernel) (by decide +kernel)
      (by decide +kernel)
  · exact strands_of_unequal stranding.calm rfl (by decide +kernel) (by decide +kernel)
      (by decide +kernel)
  · exact strands_of_unequal ⟨fun _ => rfl, ⟨rfl, rfl, rfl⟩, ⟨rfl, rfl, rfl⟩⟩ rfl
      (by decide +kernel) (by decide +kernel) (by decide +kernel)

end SharedGateway
