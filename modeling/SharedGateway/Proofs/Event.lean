/-
What one event can do, whatever fails on the way.

# Three phases

The route of an event leaves some gateways, which are refreshed (`Refreshes`); then
the route itself is written to, which changes its finalizers (`Refinalizes`) or its
bookkeeping (`Records`); and at last its gateway is ensured (`Ensures`). Each phase
has a relation between the cluster before and after it that holds however the calls
of the phase are answered, a phase that was never reached included. `Effect` has one
case for each way through the event, in terms of these relations, and `ends_handle`
shows that there is no other. Nothing is said about where the event failed: a failed
phase is one that changed less.

# What the phases leave alone

A refreshed gateway is in line with the routes as they were at its refresh. It stays
so when the route of the event is written to, since a route that leaves a gateway
contributes nothing to it (`Refreshes.apart`): a deleting route serves no gateway,
and a live one serves only the gateway that it attaches to. And the route goes on
being the same one to the operator (`Effect.keepsRoutes`).

So if an event changes a gateway at all, one of two things is true (`Effect.change`):
its route leaves the gateway, which was out of line and is in line now, under the
same records; or its route attaches to the gateway and agrees with its records. The
theorems about histories use events in this form only.
-/
import SharedGateway.Proofs.RouteWrites
import SharedGateway.Proofs.Sync

namespace SharedGateway

open Cluster (mayFail Syncs Ensures Refinalizes Records)
open Script

-- ============================================================== phases

namespace Cluster

variable {w mid after : Cluster} {targets : List ObjectRef} {key target : ObjectRef}

/-- What refreshing some gateways in turn may do: each that is changed was stale
and is in line. -/
structure Refreshes (w after : Cluster) (targets : List ObjectRef) : Prop where
  routes : after.routes = w.routes
  others : ∀ other, other ∉ targets → after.gateways.get other = w.gateways.get other
  change : ∀ target, after.gateways.get target = w.gateways.get target ∨ w.Amends after target

theorem Refreshes.refl (w : Cluster) (targets : List ObjectRef) : Refreshes w w targets :=
  ⟨rfl, fun _ _ => rfl, fun _ => .inl rfl⟩

theorem wanted_of_routes (h : after.routes = w.routes) (target : ObjectRef) :
    after.wanted target = w.wanted target := by
  rw [Cluster.wanted, h, Cluster.wanted]

/-- Whether a gateway is in line is a matter of the gateway and of what the
routes want. -/
theorem inLine_congr (gateway : after.gateways.get target = w.gateways.get target)
    (wanted : after.wanted target = w.wanted target) :
    after.InLine target ↔ w.InLine target := by
  rw [InLine, gateway, wanted, InLine]

/-- Whether a gateway is stale is a matter of the gateway and of what the routes want.
-/
theorem stale_congr (gateway : after.gateways.get target = w.gateways.get target)
    (wanted : after.wanted target = w.wanted target) :
    after.Stale target ↔ w.Stale target := by
  rw [Stale, gateway, wanted, Stale]

/-- What was made of a gateway stays made of it when others are written, before or after,
as long as the routes want the same of it. -/
theorem Amends.congr (h : w.Amends after target) {w' after' : Cluster}
    (before : w'.gateways.get target = w.gateways.get target)
    (later : after'.gateways.get target = after.gateways.get target)
    (wanted : w'.wanted target = w.wanted target)
    (wanted' : after'.wanted target = after.wanted target) : w'.Amends after' target where
  stale := (stale_congr before wanted).2 h.stale
  inLine := (inLine_congr later wanted').2 h.inLine
  records gateway gateway' there there' :=
    h.records gateway gateway' (before.symm.trans there) (later.symm.trans there')

/-- A gateway that was brought in line twice was stale at first and is in line at last.
-/
theorem Amends.trans (h : w.Amends mid target) (h' : mid.Amends after target) :
    w.Amends after target where
  stale := h.stale
  inLine := h'.inLine
  records gateway gateway'' there there'' settings := by
    obtain ⟨gateway', there', -⟩ := h'.stale
    exact (h'.records gateway' gateway'' there' there'' settings).trans
      (h.records gateway gateway' there there' settings)

/-- Gateways are refreshed one after another; a gateway may come up again. -/
theorem Refreshes.cons (first : Syncs w mid target) (rest : Refreshes mid after targets) :
    Refreshes w after (target :: targets) := by
  refine ⟨rest.routes.trans first.routes, fun other apart => ?_, fun gateway => ?_⟩
  · obtain ⟨differ, apart⟩ := not_or.1 (mt List.mem_cons.2 apart)
    exact (rest.others other apart).trans (first.gateways other differ)
  · have step : mid.gateways.get gateway = w.gateways.get gateway ∨ w.Amends mid gateway := by
      by_cases same : gateway = target
      · exact same ▸ first.change
      · exact .inl (first.gateways gateway same)
    have wanted := (wanted_of_routes first.routes gateway).symm
    have wanted' := wanted_of_routes rest.routes gateway
    obtain unchanged | amends := step
    · refine (rest.change gateway).imp (·.trans unchanged) fun amends => ?_
      exact amends.congr unchanged.symm rfl wanted rfl
    · obtain unchanged | amends' := rest.change gateway
      · exact .inr (amends.congr rfl unchanged rfl wanted')
      · exact .inr (amends.trans amends')

/-- The other routes are as they were, and the one under the key goes on, unless
it is gone. -/
structure KeepsRoutes (w after : Cluster) (key : ObjectRef) : Prop where
  others : ∀ other, other ≠ key → after.routes.get other = w.routes.get other
  route : ∀ route', after.routes.get key = some route' →
    ∃ route, w.routes.get key = some route ∧ route.Continues route'

theorem KeepsRoutes.refl (w : Cluster) (key : ObjectRef) : KeepsRoutes w w key :=
  ⟨fun _ _ => rfl, fun route found => ⟨route, found, .refl route⟩⟩

/-- A gateway that the route does not serve is wanted as before. -/
theorem KeepsRoutes.wanted (h : KeepsRoutes w after key)
    (apart : ∀ route, w.routes.get key = some route → ∀ hostname, ¬ route.serves target hostname) :
    after.wanted target = w.wanted target := by
  refine wanted_of_apart h.others apart fun route' found' hostname serves => ?_
  obtain ⟨route, found, continues⟩ := h.route route' found'
  exact apart route found hostname ((continues.serves target hostname).1 serves)

/-- Under other finalizers the route goes on. -/
theorem Refinalizes.keepsRoutes (h : Refinalizes w after key) : KeepsRoutes w after key where
  others := h.others
  route route' found' := by
    obtain ⟨route, found, continues, -⟩ := h.route route' found'
    exact ⟨route, found, continues⟩

/-- Under other bookkeeping the route goes on. -/
theorem Records.keepsRoutes {current : ObjectRef} {route : Route}
    (h : Records w after key current route) (found : w.routes.get key = some route) :
    KeepsRoutes w after key where
  others := h.others
  route route'' found'' := by
    obtain ⟨route', found', continues, -⟩ := h.route
    cases found'.symm.trans found''
    exact ⟨route, found, continues⟩

/-- The ways through an event of a stored route. -/
inductive Effect (config : Config) (key : ObjectRef) (route : Route) (w after : Cluster) : Prop
  /-- Nothing was done. -/
  | nothing (same : after = w)
  /-- A deleting route left its gateways and was let go. -/
  | finalized (mid : Cluster) (deleting : route.isDeleting = true)
    (managed : route.isManaged = true)
    (left : Refreshes w mid (Reconcile.formerGateways route))
    (written : Refinalizes mid after key)
  /-- A live route left its former gateway, and was held or not. -/
  | held (mid : Cluster) (current : ObjectRef) (live : route.isDeleting = false)
    (enabled : route.settings.enabled = true) (parent : route.parent? = some current)
    (unmanaged : route.isManaged = false)
    (left : Refreshes w mid (Reconcile.leftGateway? route current).toList)
    (written : Refinalizes mid after key)
  /-- A live route left its former gateway, its bookkeeping was written or not,
  and its gateway was ensured. -/
  | served (mid recorded : Cluster) (current : ObjectRef) (live : route.isDeleting = false)
    (enabled : route.settings.enabled = true) (parent : route.parent? = some current)
    (managed : route.isManaged = true)
    (left : Refreshes w mid (Reconcile.leftGateway? route current).toList)
    (written : Records mid recorded key current route)
    (ensured : Ensures recorded after current (route.settings.effective config))

end Cluster

open Cluster (Refreshes Effect)

-- =========================================================== the event

variable {w : Cluster} {key : ObjectRef} {route : Route}

/-- Refreshes in turn do no more than that, and those after a failure do nothing. -/
theorem ends_refreshAll (targets : List ObjectRef) (w : Cluster) :
    (Reconcile.refreshAll targets).Ends mayFail w fun _ after => Refreshes w after targets := by
  induction targets generalizing w with
  | nil => exact Refreshes.refl w []
  | cons target rest ih =>
    rw [Reconcile.refreshAll_cons]
    refine ends_refresh.bind (fun outcome mid first => ?_) fun e mid first => ?_
    · exact (ih mid).mono fun result after later => .cons first later
    · exact .cons first (.refl mid rest)

/-- Leaving the former gateway ends where its refresh does, and well in any case. -/
theorem ends_leavePrevious_of {answering : Answering} {current : ObjectRef}
    {Q : Except ReconcileError Unit → Cluster → Prop}
    (stays : Reconcile.leftGateway? route current = none → Q (.ok ()) w)
    (leaves : ∀ previous, Reconcile.leftGateway? route current = some previous →
      (Sync.refresh previous).Ends answering w fun _ after => Q (.ok ()) after) :
    (Reconcile.leavePrevious route current).Ends answering w Q :=
  Reconcile.leavePrevious_elim route current stays fun previous left =>
    ends_bind.2 (ends_attempt.2 (leaves previous left))

/-- Leaving the former gateway changes that gateway at most. -/
theorem ends_leavePrevious (route : Route) (current : ObjectRef) (w : Cluster) :
    (Reconcile.leavePrevious route current).Ends mayFail w fun _ after =>
      Refreshes w after (Reconcile.leftGateway? route current).toList := by
  refine ends_leavePrevious_of (fun _ => .refl w _) fun previous leaves => ?_
  rw [leaves]
  exact ends_refresh.mono fun _ mid first => .cons first (.refl mid [])

/-- A deleting route leaves its gateways, and then may be let go. -/
theorem ends_finalize (config : Config) (deleting : route.isDeleting = true)
    (managed : route.isManaged = true) :
    (Reconcile.finalize config key route).Ends mayFail w fun _ after =>
      Effect config key route w after := by
  rw [Reconcile.finalize_eq]
  refine (ends_mapError.2 (ends_refreshAll _ w)).bind
    (P := fun _ mid => Refreshes w mid (Reconcile.formerGateways route))
    (fun _ mid left => ?_) fun e mid left => ?_
  · refine (ends_removeFinalizer config mid key).bind (fun _ after written => ?_)
      fun e after written => ?_
    · exact .finalized mid deleting managed left written
    · exact .finalized mid deleting managed left written
  · exact .finalized mid deleting managed left (.refl mid key)

/-- A route is held, or its bookkeeping is written or not and then its gateway
is ensured. -/
theorem ends_serve (config : Config) (found : w.routes.get key = some route)
    (filed : route.ref = key) (live : route.isDeleting = false) (current : ObjectRef) :
    (Reconcile.serve config key route current).Ends mayFail w fun _ after =>
      (route.isManaged = false ∧ Refinalizes w after key)
        ∨ (route.isManaged = true ∧ ∃ recorded, Records w recorded key current route
          ∧ Ensures recorded after current (route.settings.effective config)) := by
  refine Reconcile.serve_elim config key route current (fun unmanaged => ?_) fun managed => ?_
  · refine (ends_addFinalizer config w key).bind (fun _ after written => ?_)
      fun e after written => ?_
    · exact .inl ⟨unmanaged, written⟩
    · exact .inl ⟨unmanaged, written⟩
  · refine (ends_record config found filed live).bind (fun _ recorded ⟨written, _⟩ => ?_)
      fun e recorded ⟨written, _⟩ => ?_
    · rw [ends_bind, ends_mapError]
      refine (ends_ensure config _).mono fun result after ⟨ensured, _⟩ => ?_
      cases result with
      | ok outcome => exact .inr ⟨managed, recorded, written, ensured⟩
      | error e => exact .inr ⟨managed, recorded, written, ensured⟩
    · exact .inr ⟨managed, recorded, written, .refl recorded current _⟩

/-- A live route leaves its former gateway, and then is held or served. -/
theorem ends_attach (config : Config) (found : w.routes.get key = some route)
    (filed : route.ref = key) (live : route.isDeleting = false)
    (enabled : route.settings.enabled = true) {current : ObjectRef}
    (parent : route.parent? = some current) :
    (Reconcile.attach config key route current).Ends mayFail w fun _ after =>
      Effect config key route w after := by
  rw [attach_eq]
  refine (ends_leavePrevious route current w).bind (fun _ mid left => ?_) fun e mid left => ?_
  · have found : mid.routes.get key = some route := by rw [left.routes, found]
    refine (ends_serve config found filed live current).mono fun result after served => ?_
    obtain ⟨unmanaged, written⟩ | ⟨managed, recorded, written, ensured⟩ := served
    · exact .held mid current live enabled parent unmanaged left written
    · exact .served mid recorded current live enabled parent managed left written ensured
  · cases managed : route.isManaged with
    | false => exact .held mid current live enabled parent managed left (.refl mid key)
    | true =>
      have found : mid.routes.get key = some route := by rw [left.routes, found]
      exact .served mid mid current live enabled parent managed left (.refl found)
        (.refl mid current _)

/-- There is no other way through an event of a stored route. -/
theorem ends_handle (config : Config) (found : w.routes.get key = some route)
    (filed : route.ref = key) :
    (Reconcile.handle config key route).Ends mayFail w fun _ after =>
      Effect config key route w after :=
  Reconcile.handle_elim config key route
    (fun deleting managed => ends_finalize config deleting managed) (fun _ _ => .nothing rfl)
    (fun _ _ _ => .nothing rfl) (fun _ _ _ => .nothing rfl)
    fun _ live enabled parent => ends_attach config found filed live enabled parent

/-- An event handles the route that it reads, if there is one. -/
theorem ends_reconcile_of_handle {answering : Answering} [answering.Faithful]
    {Q : Except ReconcileError Outcome → Cluster → Prop}
    (missing : w.routes.get key = none → Q (.ok .notFound) w)
    (handled : ∀ route, w.routes.get key = some route →
      (Reconcile.handle config key route).Ends answering w Q)
    (error : ∀ e, answering w (.routes (.get key)) (.error e) w → Q (.error (.store e)) w) :
    (reconcile config key).Ends answering w Q := by
  unfold reconcile Routes.get
  rw [lift_store_event, ends_bind, ends_mapError]
  refine ends_request_read rfl ?_ error
  cases found : w.routes.get key with
  | none => exact missing found
  | some route => exact handled route found

/-- An event either finds no route, or fails to read it, or has one of the
effects. -/
theorem ends_reconcile (config : Config) (w : Cluster) (key : ObjectRef)
    (filed : ∀ route, w.routes.get key = some route → route.ref = key) :
    (reconcile config key).Ends mayFail w fun _ after =>
      after = w ∨ ∃ route, w.routes.get key = some route ∧ Effect config key route w after := by
  refine ends_reconcile_of_handle (fun _ => .inl rfl) (fun route found => ?_) fun _ _ => .inl rfl
  refine (ends_handle config found (filed route found)).mono fun result after effect => ?_
  exact .inr ⟨route, found, effect⟩

-- ============================================================ gateways

/-- The gateways that a deleting route leaves are those that it mentions. -/
theorem Reconcile.mem_formerGateways {route : Route} {target : ObjectRef} :
    target ∈ formerGateways route
      ↔ route.parent? = some target ∨ route.settings.previous? = some target := by
  unfold formerGateways
  cases route.parent? with
  | none => simp
  | some current =>
    dsimp only
    split
    · rename_i listed
      have listed : route.settings.previous? = some current := by simpa using listed
      simp [listed, eq_comm]
    · simp [or_comm, eq_comm]

/-- No gateway is refreshed twice for a deleting route. -/
theorem nodup_formerGateways (route : Route) : (Reconcile.formerGateways route).Nodup := by
  unfold Reconcile.formerGateways
  cases route.parent? with
  | none => cases route.settings.previous? <;> simp
  | some current =>
    cases route.settings.previous? with
    | none => simp
    | some previous =>
      dsimp only
      split
      · simp
      · rename_i other
        have differ : previous ≠ current := by
          intro same
          exact other (by simp [same])
        simp [differ]

/-- A gateway that is left is in the bookkeeping, and is not the present one. -/
theorem leftGateway?_eq_some {route : Route} {current left : ObjectRef}
    (h : Reconcile.leftGateway? route current = some left) :
    left ≠ current ∧ route.settings.previous? = some left := by
  unfold Reconcile.leftGateway? at h
  split at h
  · cases h
  · rename_i moved
    refine ⟨?_, h⟩
    intro same
    subst same
    obtain ⟨text, named, read⟩ := Option.bind_eq_some_iff.1 h
    exact moved (named.trans (congrArg some (ObjectRef.toText_of_ofText? read).symm))

/-- A route leaves a gateway: it is being let go and has used it, or it is live
and has moved away from it. -/
def Object.leaves (route : Route) (target : ObjectRef) : Prop :=
  (route.isDeleting = true ∧ route.isManaged = true ∧ target ∈ Reconcile.formerGateways route)
    ∨ (route.isDeleting = false ∧ route.settings.enabled = true
      ∧ ∃ current, route.parent? = some current
        ∧ Reconcile.leftGateway? route current = some target)

namespace Cluster

variable {config : Config} {w mid after : Cluster} {key target : ObjectRef} {route : Route}

/-- Refreshed gateways that a route contributes nothing to stay as they are when
the route is written to. -/
theorem Refreshes.apart {targets : List ObjectRef} (left : Refreshes w mid targets)
    (found : w.routes.get key = some route) (keeps : KeepsRoutes mid after key)
    (gateway : after.gateways.get target = mid.gateways.get target)
    (apart : ∀ hostname, ¬ route.serves target hostname)
    (changed : after.gateways.get target ≠ w.gateways.get target) :
    target ∈ targets ∧ w.Amends after target := by
  rw [gateway] at changed
  have amends := (left.change target).resolve_left changed
  have wanted : after.wanted target = mid.wanted target := by
    refine keeps.wanted fun route' found' => ?_
    rw [left.routes] at found'
    cases found.symm.trans found'
    exact apart
  refine ⟨?_, amends.congr rfl gateway rfl wanted⟩
  by_contra other
  exact changed (left.others target other)

/-- A deleting route serves nothing. -/
theorem not_serves_of_deleting (deleting : route.isDeleting = true) (hostname : String) :
    ¬ route.serves target hostname := by
  intro serves
  obtain ⟨attached, -⟩ := serves
  simp [Object.attachesTo, Object.takesPart, deleting] at attached

/-- A route serves no gateway but its parent. -/
theorem not_serves_of_parent {current : ObjectRef} (parent : route.parent? = some current)
    (differ : target ≠ current) (hostname : String) : ¬ route.serves target hostname := by
  intro serves
  obtain ⟨attached, -⟩ := serves
  simp [Object.attachesTo, parent, Ne.symm differ] at attached

/-- A gateway that a route does not attach to stays in line while the route is
served. -/
theorem ends_serve_inLine (config : Config) {current : ObjectRef}
    (found : w.routes.get key = some route) (filed : route.ref = key)
    (live : route.isDeleting = false) (parent : route.parent? = some current)
    (differ : target ≠ current) (inLine : w.InLine target) :
    (Reconcile.serve config key route current).Ends mayFail w fun _ after =>
      after.InLine target := by
  have apart : ∀ known, w.routes.get key = some known →
      ∀ hostname, ¬ known.serves target hostname := by
    intro known found'
    cases found.symm.trans found'
    exact not_serves_of_parent parent differ
  refine (ends_serve config found filed live current).mono fun result after served => ?_
  obtain ⟨-, written⟩ | ⟨-, recorded, written, ensured⟩ := served
  · have gateway := congrArg (Store.get · target) written.gateways
    exact (inLine_congr gateway (written.keepsRoutes.wanted apart)).2 inLine
  · have gateway := congrArg (Store.get · target) written.gateways
    refine (ensured.inLine_iff differ).2 ?_
    exact (inLine_congr gateway ((written.keepsRoutes found).wanted apart)).2 inLine

/-- If an event changes a gateway, either its route leaves the gateway, which
was stale and is in line now, or its route attaches to the gateway, and agrees
with it if it was there. -/
theorem Effect.change (effect : Effect config key route w after)
    (found : w.routes.get key = some route)
    (changed : after.gateways.get target ≠ w.gateways.get target) :
    (route.leaves target ∧ w.Amends after target)
      ∨ (route.parent? = some target ∧ ∀ gateway, w.gateways.get target = some gateway →
        gateway.check (route.settings.effective config) = .ok ()) := by
  cases effect with
  | nothing same => exact absurd (by rw [same]) changed
  | finalized mid deleting managed left written =>
    have gateway : after.gateways.get target = mid.gateways.get target := by
      rw [written.gateways]
    obtain ⟨former, amends⟩ := left.apart found written.keepsRoutes gateway
      (not_serves_of_deleting deleting) changed
    exact .inl ⟨.inl ⟨deleting, managed, former⟩, amends⟩
  | held mid current live enabled parent unmanaged left written =>
    have gateway : after.gateways.get target = mid.gateways.get target := by
      rw [written.gateways]
    -- a gateway that was refreshed by nobody is as it was
    have former : target ∈ (Reconcile.leftGateway? route current).toList := by
      by_contra other
      exact changed (gateway.trans (left.others target other))
    have moved := Option.mem_toList.1 former
    obtain ⟨-, amends⟩ := left.apart found written.keepsRoutes gateway
      (not_serves_of_parent parent (leftGateway?_eq_some moved).1) changed
    exact .inl ⟨.inr ⟨live, enabled, current, parent, moved⟩, amends⟩
  | served mid recorded current live enabled parent managed left written ensured =>
    have gateway : ∀ other, recorded.gateways.get other = mid.gateways.get other :=
      fun other => by rw [written.gateways]
    by_cases same : target = current
    · -- the route's own gateway was not left, so it is the ensuring that changed it
      subst same
      have unmoved : recorded.gateways.get target = w.gateways.get target := by
        refine (gateway target).trans (left.others target fun former => ?_)
        exact (leftGateway?_eq_some (Option.mem_toList.1 former)).1 rfl
      have agree := (ensured.inLine.resolve_left fun same => changed (same.trans unmoved)).2
      exact .inr ⟨parent, fun gateway there => agree gateway (unmoved.trans there)⟩
    · have kept := ensured.gateways target same
      have former : target ∈ (Reconcile.leftGateway? route current).toList := by
        by_contra other
        exact changed ((kept.trans (gateway target)).trans (left.others target other))
      have moved := Option.mem_toList.1 former
      have found' : mid.routes.get key = some route := by rw [left.routes, found]
      obtain ⟨-, amends⟩ := left.apart found (written.keepsRoutes found')
        (gateway target) (not_serves_of_parent parent same) fun same => changed (kept.trans same)
      exact .inl ⟨.inr ⟨live, enabled, current, parent, moved⟩,
        amends.congr rfl kept rfl (ensured.wanted target)⟩

/-- The route of an event goes on, unless it is gone, and no other changes. -/
theorem Effect.keepsRoutes (effect : Effect config key route w after)
    (found : w.routes.get key = some route) : KeepsRoutes w after key := by
  have of_mid : ∀ {mid : Cluster}, mid.routes = w.routes → KeepsRoutes mid after key →
      KeepsRoutes w after key := by
    intro mid same keeps
    exact ⟨fun other differ => by rw [keeps.others other differ, same],
      fun route' found' => same ▸ keeps.route route' found'⟩
  cases effect with
  | nothing same => exact same ▸ .refl w key
  | finalized mid deleting managed left written => exact of_mid left.routes written.keepsRoutes
  | held mid current live enabled parent unmanaged left written =>
    exact of_mid left.routes written.keepsRoutes
  | served mid recorded current live enabled parent managed left written ensured =>
    have found' : mid.routes.get key = some route := by rw [left.routes, found]
    obtain ⟨others, continues⟩ := written.keepsRoutes found'
    refine of_mid left.routes ⟨fun other differ => ?_, fun route' found' => ?_⟩
    · rw [ensured.routes, others other differ]
    · rw [ensured.routes] at found'
      exact continues route' found'

end Cluster

-- ============================================================= routes

/-- A route that opts in, stored under the key, with one parent and one
hostname. -/
def Route.optedIn (key parent : ObjectRef) (hostname : String)
    (annotations : List (String × String)) (finalizers : List String) : Route where
  metadata := {
    name := some key.name
    ns := some key.ns
    annotations := some (.ofList ((AnnotationKey.enabled, "true") :: annotations))
    finalizers := some finalizers }
  spec := {
    parents := [{ name := parent.name, ns := some parent.ns }]
    hostnames := [hostname] }

end SharedGateway
