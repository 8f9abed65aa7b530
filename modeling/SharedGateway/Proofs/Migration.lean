/-
A route that moves from one gateway to another.

# Leaving comes first

The gateway that a route leaves is refreshed before anything else is done for the
route, and a failure to do so does not stop the event. If the refresh succeeds, the
gateway is in line, and stays so while the route is served by another one
(`attach_of_leaves`). If it fails, the route still names the gateway in its
bookkeeping, and a later event might refresh it again; but for a route that already
holds the finalizer the bookkeeping is written over in the same event. Only a route
that is yet to be held keeps the record of the gateway that it could not leave
(`serve_names`). So the record outlives a failed refresh only as long as it is not
written over (`left_gateway_in_line_or_named`).

# Failing to leave

That the refresh has failed is said of the calls that the event itself has made: the
route leaves the gateway, and one of the moments of the event is a failed call of
that refresh (`Cluster.FailsToLeave`). A refresh in which no call fails ends well,
and so leaves its gateway in line; it is this that is turned round. The calls of the
refresh are among those of the event, since the event makes it first, in the cluster
that reading the route has left (`moments_reconcile_of_leaves`).

# The exception is real

In `moving` the old gateway cannot be deleted, the event ends well all the same, and
nothing names the gateway any more (`failed_cleanup_is_forgotten`).
-/
import SharedGateway.Proofs.Calls
import SharedGateway.Proofs.Policy
import SharedGateway.Proofs.Runs

namespace SharedGateway

open Cluster (mayFail succeeds)
open Script

variable {config : Config} {w : Cluster} {key left : ObjectRef} {route : Route}

-- ======================================================== by and by

/-- The cluster after the event has read its route. -/
def Cluster.afterRead (w : Cluster) (key : ObjectRef) : Cluster :=
  (w.answer (.routes (.get key))).after

/-- Reading a route leaves both stores, whether it fails or not. -/
theorem Cluster.FaultsOnly.afterRead (h : w.FaultsOnly) (key : ObjectRef) :
    (w.afterRead key).FaultsOnly ∧ (w.afterRead key).unplanned = w.unplanned
      ∧ ((w.answer (.routes (.get key))).reply = .ok (w.routes.get key)
        ∨ ∃ e, (w.answer (.routes (.get key))).reply = .error e) := by
  obtain ⟨answered, faultsOnly⟩ := h.answer (.routes (.get key))
  refine ⟨faultsOnly, ?_⟩
  obtain performed | ⟨failed, same⟩ := answered
  · obtain ⟨reply, after⟩ := Cluster.performs_iff.1 performed
    exact ⟨after, .inl reply⟩
  · exact ⟨same, .inr failed⟩

/-- An event is the reading of its route, and what is done with what was read. -/
theorem run_reconcile (config : Config) (w : Cluster) (key : ObjectRef) :
    ((reconcile config key).run w).cluster
      = match (w.answer (.routes (.get key))).reply with
        | .ok none => w.afterRead key
        | .ok (some route) => ((Reconcile.handle config key route).run (w.afterRead key)).cluster
        | .error _ => w.afterRead key := by
  rw [reconcile_eq]
  dsimp only [run, Run.preceded]
  rcases (w.answer (.routes (.get key))).reply with e | _ | route <;> rfl

/-- A route that leaves a gateway is served in the cluster that the refresh has left. -/
theorem run_attach_of_left {current : ObjectRef}
    (moving : Reconcile.leftGateway? route current = some left) :
    ((Reconcile.attach config key route current).run w).cluster
      = ((Reconcile.serve config key route current).run
        ((Sync.refresh left).run w).cluster).cluster := by
  rw [attach_eq, run_bind, Reconcile.leavePrevious_of_leaves moving, run_bind, run_attempt]
  rfl

/-- A route that leaves nothing is served at once. -/
theorem run_attach_of_stays {current : ObjectRef}
    (staying : Reconcile.leftGateway? route current = none) :
    ((Reconcile.attach config key route current).run w).cluster
      = ((Reconcile.serve config key route current).run w).cluster := by
  rw [attach_eq, run_bind, Reconcile.leavePrevious_of_stays staying]
  rfl

-- ============================================================= serving

/-- Is the gateway named in the bookkeeping of the route that is stored? -/
def Cluster.Names (w : Cluster) (key target : ObjectRef) : Prop :=
  ∃ route, w.routes.get key = some route ∧ route.settings.previous? = some target

/-- Serving a route that does not hold the finalizer keeps its bookkeeping,
unless the route is gone; serving one that does may name its gateway. -/
theorem serve_names (config : Config) (current : ObjectRef) {target : ObjectRef}
    (faultsOnly : w.FaultsOnly) (found : w.routes.get key = some route) (filed : route.ref = key)
    (live : route.isDeleting = false) (named : route.settings.previous? = some target) :
    let after := ((Reconcile.serve config key route current).run w).cluster
    after.Names key target
      ∨ (¬ w.routes.Calm ∧ after.routes.get key = none)
      ∨ (route.isManaged = true ∧ route.settings.previousGateway ≠ some current.toText) := by
  intro after
  obtain ⟨-, written⟩ | ⟨managed, recorded, written, ensured⟩ :=
    run_of_faultsOnly faultsOnly (ends_serve config (w := w.unplanned) found filed live current)
  · cases there : after.routes.get key with
    | some route' =>
      obtain ⟨known, found', -, settings⟩ := written.route route' there
      cases found.symm.trans found'
      exact .inl ⟨route', there, by rw [settings, named]⟩
    | none =>
      refine .inr (.inl ⟨fun calm => ?_, rfl⟩)
      obtain ⟨route', there'⟩ := (written.calm calm).2 route found live
      cases there.symm.trans there'
  -- held all along: either the record was in place, or the service is past writing it
  · by_cases recorded_already : route.settings.previousGateway = some current.toText
    · obtain ⟨route', found', -, -, bookkeeping⟩ := written.route
      have same : route'.settings.previousGateway = route.settings.previousGateway :=
        bookkeeping.elim id fun written => written.trans recorded_already.symm
      refine .inl ⟨route', ?_, by rw [RouteSettings.previous?, same]; exact named⟩
      exact (congrArg (Store.get · key) ensured.routes).trans found'
    · exact .inr (.inr ⟨managed, recorded_already⟩)

-- =========================================================== migration

/-- A route stays where its bookkeeping is the text of its parent. -/
theorem previousGateway_of_stays {current : ObjectRef}
    (named : route.settings.previous? = some left)
    (staying : Reconcile.leftGateway? route current = none) :
    route.settings.previousGateway = some current.toText := by
  unfold Reconcile.leftGateway? at staying
  split at staying
  · assumption
  · cases staying.symm.trans named

/-- A route that stays goes on naming its gateway, unless it goes away. -/
theorem attach_of_stays (config : Config) {current : ObjectRef} (faultsOnly : w.FaultsOnly)
    (found : w.routes.get key = some route) (filed : route.ref = key)
    (live : route.isDeleting = false) (named : route.settings.previous? = some left)
    (staying : Reconcile.leftGateway? route current = none) :
    let after := ((Reconcile.attach config key route current).run w).cluster
    after.Names key left ∨ (¬ w.routes.Calm ∧ after.routes.get key = none) := by
  rw [run_attach_of_stays staying]
  obtain names | gone | ⟨-, other⟩ := serve_names config current faultsOnly found filed live named
  · exact .inl names
  · exact .inr gone
  · exact absurd (previousGateway_of_stays named staying) other

/-- A route that leaves a gateway leaves it in line, unless the refresh fails;
and then it goes on naming it, unless its bookkeeping is written over in the
same event or the route goes away. -/
theorem attach_of_leaves (config : Config) {current : ObjectRef} (faultsOnly : w.FaultsOnly)
    (found : w.routes.get key = some route) (filed : route.ref = key)
    (live : route.isDeleting = false) (parent : route.parent? = some current)
    (leaving : Reconcile.leftGateway? route current = some left) :
    let after := ((Reconcile.attach config key route current).run w).cluster
    after.InLine left
      ∨ ((∃ m ∈ ((Sync.refresh left).run w).moments, m.Failed)
        ∧ (after.Names key left ∨ route.isManaged = true
          ∨ (¬ w.routes.Calm ∧ after.routes.get key = none))) := by
  obtain ⟨differ, named⟩ := leftGateway?_eq_some leaving
  rw [run_attach_of_left leaving]
  -- the refresh is of the old gateway, so the route is met as it was
  have syncs : Cluster.Syncs w.unplanned ((Sync.refresh left).run w).cluster.unplanned left :=
    run_of_faultsOnly faultsOnly ends_refresh
  have routes : ((Sync.refresh left).run w).cluster.routes = w.routes := syncs.routes
  have faultsOnly' : ((Sync.refresh left).run w).cluster.FaultsOnly := faultsOnly_run faultsOnly
  have stored : ((Sync.refresh left).run w).cluster.routes.get key = some route := by
    rw [routes, found]
  by_cases failed : ∃ m ∈ ((Sync.refresh left).run w).moments, m.Failed
  · refine .inr ⟨failed, ?_⟩
    -- with the refresh lost, all rests on what the service does to the bookkeeping
    obtain names | ⟨uneasy, gone⟩ | ⟨managed, -⟩ :=
      serve_names config current faultsOnly' stored filed live named
    · exact .inl names
    · exact .inr (.inr ⟨routes ▸ uneasy, gone⟩)
    · exact .inr (.inl managed)
  · have inLine : ((Sync.refresh left).run w).cluster.InLine left :=
      run_of_unfailed faultsOnly (fun m member fails => failed ⟨m, member, fails⟩) refresh_inLine
    exact .inl (run_of_faultsOnly faultsOnly' (Cluster.ends_serve_inLine config
      (w := ((Sync.refresh left).run w).cluster.unplanned) stored filed live parent differ inLine))

/-- An event of a route that leaves a gateway makes the calls of its refresh. -/
theorem moments_reconcile_of_leaves (config : Config) {current : ObjectRef}
    (loaded : (w.answer (.routes (.get key))).reply = .ok (some route))
    (live : route.isDeleting = false) (enabled : route.settings.enabled = true)
    (parent : route.parent? = some current)
    (leaving : Reconcile.leftGateway? route current = some left) {m : Moment}
    (made : m ∈ ((Sync.refresh left).run (w.afterRead key)).moments) :
    m ∈ ((reconcile config key).run w).moments := by
  rw [moments_reconcile, loaded]
  refine List.mem_cons_of_mem _ ?_
  dsimp only
  rw [handle_of_attached config key live enabled parent, attach_eq,
    Reconcile.leavePrevious_of_leaves leaving]
  refine mem_moments_bind.2 (.inl ?_)
  rw [moments_attempt_bind]
  exact List.mem_append_left _ made

/-- The event of the route refreshes the gateway since the route has moved away from it,
and a call of that refresh fails. -/
structure Cluster.FailsToLeave (config : Config) (w : Cluster) (key : ObjectRef) (route : Route)
    (left : ObjectRef) : Prop where
  leaves : ∃ current, route.parent? = some current
    ∧ Reconcile.leftGateway? route current = some left
  failed : ∃ m ∈ ((reconcile config key).run w).moments,
    m ∈ ((Sync.refresh left).run (w.afterRead key)).moments ∧ m.Failed

/-- After an event of a live route whose bookkeeping names a gateway, that
gateway is in line with the routes, or the stored route still names it. Two
things can come between: the event refreshed the gateway, a call of that failed,
and the route held the finalizer already, so that its bookkeeping was written over in
the same event; or another writer's removal of the route was due, and the refresh
failed or there was none since the bookkeeping is the text of the route's parent. -/
theorem left_gateway_in_line_or_named (config : Config) {w : Cluster}
    (faultsOnly : w.FaultsOnly) {key : ObjectRef} {route : Route}
    (found : w.routes.get key = some route) (filed : route.ref = key)
    (live : route.isDeleting = false) (enabled : route.settings.enabled = true)
    {left : ObjectRef} (named : route.settings.previous? = some left) :
    let after := ((reconcile config key).run w).cluster
    let failed := w.FailsToLeave config key route left
    after.InLine left ∨ after.Names key left
      ∨ (failed ∧ route.isManaged = true)
      ∨ (¬ w.routes.Calm ∧ after.routes.get key = none
        ∧ (failed ∨ route.settings.previousGateway = route.parent?.map ObjectRef.toText)) := by
  obtain ⟨faultsOnly', same, reply⟩ := faultsOnly.afterRead key
  have routes : (w.afterRead key).routes = w.routes := congrArg (·.unplanned.routes) same
  have stored : (w.afterRead key).routes.get key = some route := by rw [routes, found]
  rw [run_reconcile, ← routes]
  obtain reply | ⟨e, reply⟩ := reply
  · rw [reply, found]
    dsimp only
    cases parent : route.parent? with
    | none =>
      rw [handle_of_unattached config key live enabled parent]
      exact .inr (.inl ⟨route, stored, named⟩)
    | some current =>
      rw [handle_of_attached config key live enabled parent]
      cases leaving : Reconcile.leftGateway? route current with
      | none =>
        -- nothing was left, so the text of the bookkeeping is that of the parent
        have sameText := previousGateway_of_stays named leaving
        obtain names | ⟨uneasy, gone⟩ :=
          attach_of_stays config faultsOnly' stored filed live named leaving
        · exact .inr (.inl names)
        · exact .inr (.inr (.inr ⟨uneasy, gone, .inr sameText⟩))
      | some left =>
        cases (leftGateway?_eq_some leaving).2.symm.trans named
        have loaded : (w.answer (.routes (.get key))).reply = .ok (some route) :=
          reply.trans (congrArg Except.ok found)
        -- the calls of the refresh are calls of the event
        have fails : (∃ m ∈ ((Sync.refresh left).run (w.afterRead key)).moments, m.Failed) →
            w.FailsToLeave config key route left := by
          intro failed
          obtain ⟨m, made, failed⟩ := failed
          exact ⟨⟨current, parent, leaving⟩, m,
            moments_reconcile_of_leaves config loaded live enabled parent leaving made, made,
            failed⟩
        obtain inLine | ⟨failed, names | managed | ⟨uneasy, gone⟩⟩ :=
          attach_of_leaves config faultsOnly' stored filed live parent leaving
        · exact .inl inLine
        · exact .inr (.inl names)
        · exact .inr (.inr (.inl ⟨fails failed, managed⟩))
        · exact .inr (.inr (.inr ⟨uneasy, gone, .inl (fails failed)⟩))
  · rw [reply]
    exact .inr (.inl ⟨route, stored, named⟩)

/-- A route that holds the finalizer has moved to a new gateway, and the next
deletion of a gateway will fail. -/
def moving : Cluster where
  routes := { objects := .ofList [(⟨"apps", "first"⟩, moved)] }
  gateways := { objects := .ofList [
    (⟨"infra", "old"⟩,
      Gateway.recording ⟨"infra", "old"⟩ ⟨"internpki", "hnet-private"⟩ "eg"
        [.https "a.example.com" "infra"])] }
  plans site := if site = ⟨.gateway, .delete⟩ then [{ fault := some (.status 500) }] else []
where
  /-- The bookkeeping still names the old gateway. -/
  moved : Route :=
    Route.optedIn ⟨"apps", "first"⟩ ⟨"infra", "new"⟩ "a.example.com"
      [(AnnotationKey.reconciled, "true"), (AnnotationKey.previousGateway, "infra/old")]
      [finalizer]

/-- One failure is planned, and nothing else. -/
theorem moving_faultsOnly : moving.FaultsOnly := by
  intro site d planned
  simp only [moving] at planned
  split at planned
  · cases List.mem_singleton.1 planned
    rfl
  · cases planned

/-- The old gateway is in line after the event, or named, or its refresh failed
or the route went away. -/
theorem moving_in_line_or_named :
    let after := ((reconcile .standard ⟨"apps", "first"⟩).run moving).cluster
    let failed := moving.FailsToLeave .standard ⟨"apps", "first"⟩ moving.moved ⟨"infra", "old"⟩
    after.InLine ⟨"infra", "old"⟩ ∨ after.Names ⟨"apps", "first"⟩ ⟨"infra", "old"⟩
      ∨ (failed ∧ moving.moved.isManaged = true)
      ∨ (¬ moving.routes.Calm ∧ after.routes.get ⟨"apps", "first"⟩ = none
        ∧ (failed ∨ moving.moved.settings.previousGateway
          = moving.moved.parent?.map ObjectRef.toText)) :=
  @left_gateway_in_line_or_named .standard moving moving_faultsOnly ⟨"apps", "first"⟩
    moving.moved rfl rfl rfl rfl ⟨"infra", "old"⟩ rfl

set_option maxRecDepth 10000 in
/-- When the deletion of the old gateway fails, the event goes on to name the new
one, and the old gateway stays with nobody left to remove it. -/
theorem failed_cleanup_is_forgotten :
    ¬ ∀ (config : Config) (w : Cluster) (key left : ObjectRef) (route : Route),
      w.FaultsOnly → w.Filed → w.routes.get key = some route → route.isDeleting = false →
      route.settings.enabled = true → route.settings.previous? = some left →
      route.parent? ≠ some left →
      ((reconcile config key).run w).cluster.InLine left
        ∨ ((reconcile config key).run w).cluster.Names key left := by
  intro claim
  have filed : moving.Filed := by
    intro key route found
    have stored : (key, route) ∈ [(⟨"apps", "first"⟩, _)] := Table.find?_eq_some_iff.1 found
    cases List.mem_singleton.1 stored
    rfl
  obtain inLine | ⟨route, found, named⟩ := claim .standard moving ⟨"apps", "first"⟩
    ⟨"infra", "old"⟩ moving.moved moving_faultsOnly filed rfl rfl rfl rfl (by decide)
  · have kept : ((reconcile .standard ⟨"apps", "first"⟩).run moving).cluster.gateways.get
        ⟨"infra", "old"⟩ = moving.gateways.get ⟨"infra", "old"⟩ := by rfl
    have unwanted : ((reconcile .standard ⟨"apps", "first"⟩).run moving).cluster.wanted
        ⟨"infra", "old"⟩ = [] := by rfl
    obtain perm | ⟨deleting, -⟩ := inLine _ (kept.trans rfl)
    · rw [unwanted] at perm
      cases perm.length_eq
    · cases deleting
  · have renamed : (((reconcile .standard ⟨"apps", "first"⟩).run moving).cluster.routes.get
        ⟨"apps", "first"⟩).bind (·.settings.previous?) = some ⟨"infra", "new"⟩ := by rfl
    rw [found, Option.bind_some, named] at renamed
    exact absurd renamed (by decide)

end SharedGateway
