/-
A deleting route is let go only after its gateways.

# The gateways

Each gateway that a deleting route has used is refreshed, and a refresh that fails
ends the event before the finalizer is touched. Refreshes that all succeed leave all
of their gateways in line, for a later one undoes no earlier one: what it changes is
its own gateway, and it does not touch the routes (`ends_refreshAll_inLine`). A
deleting route contributes to no gateway, so what the routes want is what the other
routes want, whether this one is still stored or not (`Cluster.wanted_without`).

# The finalizer

Attempts at the finalizer end with the route let go, or with the route as it was
(`ends_removeFinalizer_letGo`): an attempt that fails has written nothing, so the
next one finds what this one found. Let go means stored without the operator's own
finalizers, or gone.

All this takes failures that can be believed, at two places: a gateway that is
reported missing counts as refreshed, and a route that is reported missing counts as
let go. In runs in which such a report is always true the event ends well only when
both halves are (`finalization_releases_in_line`), and if it fails, the route is held
as it was.
-/
import SharedGateway.Proofs.Event
import SharedGateway.Proofs.HonestSync

namespace SharedGateway

open Cluster (mayFail honest)
open Script

variable {w : Cluster} {key target : ObjectRef} {route : Route}

-- ============================================================= gateways

/-- Refreshes that all succeed leave all of their gateways in line: a later one
brings into line what it changes, so it undoes no earlier one. -/
theorem ends_refreshAll_inLine (targets : List ObjectRef) (w : Cluster) :
    (Reconcile.refreshAll targets).Ends honest w fun result after =>
      after.routes = w.routes ∧ ((∃ done, result = .ok done) →
        ∀ target ∈ targets, after.InLine target) := by
  induction targets generalizing w with
  | nil => exact ⟨rfl, fun _ target member => nomatch member⟩
  | cons target rest ih =>
    rw [Reconcile.refreshAll_cons]
    refine ((ends_honest ends_refresh).and ends_refresh_inLine).bind (fun outcome mid first => ?_)
      fun e mid first => ?_
    · obtain ⟨syncs, inLine⟩ := first
      refine ((ends_honest (ends_refreshAll rest mid)).and (ih mid)).mono
        fun result after later => ?_
      obtain ⟨refreshes, routes, others⟩ := later
      refine ⟨routes.trans syncs.routes, fun done other member => ?_⟩
      rcases List.mem_cons.1 member with same | member
      · subst same
        -- the same gateway may come again, and is in line after that refresh too
        obtain unchanged | amends := refreshes.change other
        · exact (Cluster.inLine_congr unchanged (Cluster.wanted_of_routes routes other)).2 inLine
        · exact amends.inLine
      · exact others done other member
    · refine ⟨first.1.routes, fun done => ?_⟩
      obtain ⟨_, ok⟩ := done
      cases ok

-- ============================================================ finalizer

/-- The route is gone, or stored as it was but for the operator's own finalizers,
in a new version. -/
def Cluster.LetGo (w : Cluster) (key : ObjectRef) (route : Route) : Prop :=
  w.routes.get key = none ∨ ∃ version, w.routes.get key
    = some (route.refinalized (Reconcile.released route.finalizers) (some version))

/-- A route is let go by a patch that goes through, or where it is reported gone and is. -/
theorem leaves_letGo {reply : Except StoreError Route} {after : Cluster}
    (written : ∀ answer, reply = .ok answer → after.LetGo key route)
    (gone : ∀ cause, reply = .error cause → cause.isNotFound = true →
      after.routes.get key = none)
    (kept : ∀ cause, reply = .error cause → cause.isNotFound = false →
      after.routes.get key = some route) :
    Leaves (·.LetGo key route) (fun after => after.routes.get key = some route)
      (Reconcile.letGo reply) after := by
  cases reply with
  | ok answer => exact written answer rfl
  | error cause =>
    dsimp only [Reconcile.letGo]
    split
    · exact .inl (gone cause rfl ‹_›)
    · exact kept cause rfl (Bool.eq_false_iff.2 ‹_›)

/-- A patch of the finalizers lets the route go, or reports it gone and it is, or
leaves it. -/
theorem letGo_merge (found : w.routes.get key = some route) :
    let exchange := w.perform (.routes (.merge key
      (Reconcile.finalizersPatch route (Reconcile.released route.finalizers))))
    (∀ answer, exchange.1 = .ok answer → exchange.2.LetGo key route)
      ∧ ∀ e, exchange.1 = .error e → e.isNotFound = false →
        exchange.2.routes.get key = some route := by
  let patch := Reconcile.finalizersPatch route (Reconcile.released route.finalizers)
  show (∀ answer, (w.routes.merge key patch).1 = .ok answer →
      Cluster.LetGo { w with routes := (w.routes.merge key patch).2 } key route)
    ∧ ∀ e, (w.routes.merge key patch).1 = .error e → e.isNotFound = false →
      (w.routes.merge key patch).2.get key = some route
  obtain ⟨⟨e, failed, left⟩, -⟩ | ⟨known, route', found', read, done, left⟩ :=
    w.routes.merge_cases key patch
  · refine ⟨fun answer ok => (nomatch failed.symm.trans ok), fun e' failed' told => ?_⟩
    cases failed.symm.trans failed'
    -- a failed patch that lost the route has told so, which the premise excludes
    obtain same | ⟨-, reported, -⟩ := left key
    · exact same.trans found
    · cases told.symm.trans reported
  · cases found.symm.trans found'
    refine ⟨fun answer _ => ?_, fun e failed => nomatch done.symm.trans failed⟩
    cases (ofJson?_finalizersPatch route _).symm.trans read
    have stored := left key
    rw [Store.get_replace, if_pos rfl] at stored
    split at stored
    · exact .inl stored
    · exact .inr ⟨w.routes.versionText, stored⟩

/-- An attempt lets the route go, or has changed nothing. -/
theorem ends_removeFinalizerOnce_letGo (managed : route.isManaged = true)
    (found : w.routes.get key = some route) :
    (Reconcile.removeFinalizerOnce key).Ends honest w
      (Leaves (·.LetGo key route) fun after => after.routes.get key = some route) := by
  refine ends_removeFinalizerOnce_of (fun _ _ => found)
    (fun missing => nomatch found.symm.trans missing) (fun known found' unmanaged => ?_)
    fun known found' _ => ?_
  · cases found.symm.trans found'
    cases managed.symm.trans unmanaged
  · cases found.symm.trans found'
    obtain ⟨letGo, kept⟩ := letGo_merge found
    have truth := w.tellsTruth_perform (.routes (.merge key
      (Reconcile.finalizersPatch route (Reconcile.released route.finalizers))))
    refine ends_request_honest.2 ⟨?_, fun cause told => ?_⟩
    · exact leaves_letGo letGo (fun cause failed missing => truth cause failed missing key rfl) kept
    · refine leaves_letGo (fun _ ok => by cases ok) (fun other same missing => ?_)
        fun _ _ _ => found
      cases same
      exact told missing key rfl

/-- Repeated attempts let the route go, or have changed nothing. -/
theorem ends_removeFinalizer_letGo (config : Config) (managed : route.isManaged = true)
    (found : w.routes.get key = some route) :
    (Reconcile.updating config (Reconcile.removeFinalizerOnce key)).Ends honest w
      (Leaves (·.LetGo key route) fun after => after.routes.get key = some route) :=
  ends_updating config (fun _ found => ends_removeFinalizerOnce_letGo managed found) found

-- ========================================================= finalization

namespace Cluster

/-- The cluster without one of its routes. -/
def without (w : Cluster) (key : ObjectRef) : Cluster :=
  { w with routes := { w.routes with objects := w.routes.objects.erase key } }

theorem wanted_without (apart : ∀ route, w.routes.get key = some route →
    ∀ hostname, ¬ route.serves target hostname) :
    w.wanted target = (w.without key).wanted target := by
  have erased : ∀ other, (w.without key).routes.get other
      = if key = other then none else w.routes.get other := Store.get_of_erased rfl
  refine wanted_of_apart (fun other differ => ?_) (fun route found => ?_) apart
  · rw [erased, if_neg (Ne.symm differ)]
  · rw [erased, if_pos rfl] at found
    cases found

/-- The route is let go, and every gateway that it used is in line with the other
routes. -/
structure Finalized (w : Cluster) (key : ObjectRef) (route : Route) : Prop where
  letGo : w.LetGo key route
  inLine : ∀ target, route.parent? = some target ∨ route.settings.previous? = some target →
    w.InLine target
  apart : ∀ target, w.wanted target = (w.without key).wanted target

end Cluster

/-- A finalization that succeeds has released its route in line; one that fails holds it
as it was. -/
theorem ends_finalize_released (config : Config) (found : w.routes.get key = some route)
    (deleting : route.isDeleting = true) (managed : route.isManaged = true) :
    (Reconcile.finalize config key route).Ends honest w fun result after =>
      (∀ outcome, result = .ok outcome → outcome = .finalized ∧ after.Finalized key route)
        ∧ ∀ e, result = .error e → after.routes.get key = some route := by
  rw [Reconcile.finalize_eq, ends_bind, ends_mapError]
  refine (ends_refreshAll_inLine (Reconcile.formerGateways route) w).mono
    fun result mid left => ?_
  obtain ⟨routes, inLine⟩ := left
  -- whatever the refreshes came to, they have not touched the route
  have held : mid.routes.get key = some route := by rw [routes, found]
  cases result with
  | error e => exact ⟨nofun, fun _ _ => held⟩
  | ok done =>
    refine ((ends_honest (ends_removeFinalizer config mid key)).and
      (ends_removeFinalizer_letGo config managed held)).bind
      (fun _ after ⟨written, letGo⟩ => ?_) fun e after ⟨_, kept⟩ => ⟨nofun, fun _ _ => kept⟩
    refine ⟨fun outcome ok => ?_, nofun⟩
    cases ok
    -- letting go changes nothing about what is wanted, for the route served nothing
    have wanted : ∀ target, after.wanted target = mid.wanted target := by
      intro target
      refine written.keepsRoutes.wanted fun known found' hostname => ?_
      cases held.symm.trans found'
      exact Cluster.not_serves_of_deleting deleting hostname
    refine ⟨rfl, letGo, fun target used => ?_, fun target => ?_⟩
    · have gateway := congrArg (Store.get · target) written.gateways
      refine (Cluster.inLine_congr gateway (wanted target)).2 (inLine ⟨done, rfl⟩ target ?_)
      exact Reconcile.mem_formerGateways.2 used
    · refine Cluster.wanted_without fun route' found' hostname serves => ?_
      obtain ⟨known, found'', continues⟩ := written.keepsRoutes.route route' found'
      cases held.symm.trans found''
      exact Cluster.not_serves_of_deleting deleting hostname
        ((continues.serves target hostname).1 serves)

/-- The event of a deleting route that holds the finalizer ends well only when the
route is let go and every gateway that it used is in line with the other routes;
if it fails, the route is held as it was. -/
theorem finalization_releases_in_line (config : Config) {w : Cluster}
    (faultsOnly : w.FaultsOnly) {key : ObjectRef} {route : Route}
    (found : w.routes.get key = some route) (deleting : route.isDeleting = true)
    (managed : route.isManaged = true) (truthful : (reconcile config key).RunsHonestly w) :
    let run := (reconcile config key).run w
    (∀ outcome, run.result = .ok outcome →
      outcome = .finalized ∧ run.cluster.Finalized key route)
    ∧ ∀ e, run.result = .error e → run.cluster.routes.get key = some route := by
  have ends : (reconcile config key).Ends honest w.unplanned fun result after =>
      (∀ outcome, result = .ok outcome → outcome = .finalized ∧ after.Finalized key route)
        ∧ ∀ e, result = .error e → after.routes.get key = some route := by
    refine ends_reconcile_of_handle (fun missing => nomatch found.symm.trans missing)
      (fun known found' => ?_) fun _ _ => ⟨nofun, fun _ _ => found⟩
    cases found.symm.trans found'
    rw [handle_of_finalizing config key deleting managed]
    exact ends_finalize_released config found deleting managed
  obtain ⟨done, failed⟩ := run_of_honest faultsOnly truthful ends
  refine ⟨fun outcome ok => ?_, failed⟩
  obtain ⟨finalized, letGo, inLine, apart⟩ := done outcome ok
  exact ⟨finalized, letGo, inLine, apart⟩

/-- A deleting route has moved from one gateway to another, which it shares. The
first attempt at its finalizer will meet a conflict. -/
def departing : Cluster where
  routes := { objects := .ofList [
    (⟨"apps", "first"⟩, leaver),
    (⟨"apps", "second"⟩,
      Route.optedIn ⟨"apps", "second"⟩ ⟨"infra", "new"⟩ "b.example.com" [] [finalizer])] }
  gateways := { objects := .ofList [
    (⟨"infra", "old"⟩,
      Gateway.recording ⟨"infra", "old"⟩ ⟨"internpki", "hnet-private"⟩ "eg"
        [.https "a.example.com" "infra"]),
    (⟨"infra", "new"⟩,
      Gateway.recording ⟨"infra", "new"⟩ ⟨"internpki", "hnet-private"⟩ "eg"
        [.https "a.example.com" "infra", .https "b.example.com" "infra"])] }
  plans site := if site = ⟨.httpRoute, .merge⟩ then [{ fault := some .conflict }] else []
where
  /-- Somebody else holds the route too. -/
  leaver : Route :=
    let route := Route.optedIn ⟨"apps", "first"⟩ ⟨"infra", "new"⟩ "a.example.com"
      [(AnnotationKey.reconciled, "true"), (AnnotationKey.previousGateway, "infra/old")]
      [finalizer, "example.com/backup"]
    route.remarked (some Store.deletionTime) none

/-- One failure is planned, and it reports nothing missing. -/
theorem departing_plans : departing.FaultsOnly
    ∧ ∀ site, ∀ d ∈ departing.plans site, d.fault ≠ some .notFound := by
  have planned : ∀ site, ∀ d ∈ departing.plans site, d = { fault := some .conflict } := by
    intro site d member
    simp only [departing] at member
    split at member
    · exact List.mem_singleton.1 member
    · cases member
  refine ⟨fun site d member => ?_, fun site d member => ?_⟩
  · rw [planned site d member]
  · rw [planned site d member]
    decide

/-- The event ends well, at the second attempt. -/
theorem departing_finalized :
    ((reconcile .standard ⟨"apps", "first"⟩).run departing).result = .ok .finalized := by
  decide +kernel

/-- The route is let go by the operator, and both gateways are in line. -/
theorem departing_route_is_released :
    let after := ((reconcile .standard ⟨"apps", "first"⟩).run departing).cluster
    (∃ version, after.routes.get ⟨"apps", "first"⟩
        = some (departing.leaver.refinalized ["example.com/backup"] (some version)))
      ∧ after.InLine ⟨"infra", "old"⟩ ∧ after.InLine ⟨"infra", "new"⟩ := by
  intro after
  obtain ⟨faultsOnly, plans⟩ := departing_plans
  obtain ⟨-, letGo, inLine, -⟩ := (finalization_releases_in_line .standard faultsOnly
    (show departing.routes.get ⟨"apps", "first"⟩ = some departing.leaver by decide +kernel)
    (by decide +kernel) (by decide +kernel)
    (runsHonestly_of_plans faultsOnly plans)).1 .finalized departing_finalized
  refine ⟨?_, inLine _ (.inr (by decide +kernel)), inLine _ (.inl (by decide +kernel))⟩
  obtain gone | ⟨version, stored⟩ := letGo
  · have kept : (after.routes.get ⟨"apps", "first"⟩).isSome = true := by decide +kernel
    rw [gone] at kept
    cases kept
  · have others : Reconcile.released departing.leaver.finalizers = ["example.com/backup"] := by
      decide +kernel
    exact ⟨version, others ▸ stored⟩

end SharedGateway
