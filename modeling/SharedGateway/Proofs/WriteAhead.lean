/-
What is written down before a gateway is touched.

# Two phases

The gateway that a route attaches to is written in two phases of an event only: when
the route is let go, which is before its finalizer is removed
(`finalize_writes_ahead`), and when its gateway is ensured, which is after its
bookkeeping was read or written (`serve_writes_ahead`). In the third phase that calls
gateways, the one that leaves the former gateway, another gateway is written
(`attach_writes_ahead`).

# The route at the moment of the write

The statement is about the store of routes as each write of the gateway meets it, not
about what the event has read: the stored route holds the finalizer and names the
gateway, unless it is being let go (`Cluster.Announces`). At the start of each of the
two phases this is so. From there to the end of the phase nothing but gateways is
written, so every call meets the routes as they were at the start
(`met_routes_of_spared`): a failed call changes nothing, and without writes of others
no one else does either.

So wherever the event breaks off, the stored route tells what there is to clean up
(`parent_is_written_ahead`). What remains of an event that ends well is read off its
outcome: an event that neither let the route go nor brought its gateway in line has
called for that gateway in neither of the two phases.
-/
import SharedGateway.Proofs.GatewayWrites
import SharedGateway.Proofs.Migration

namespace SharedGateway

open Cluster (mayFail)
open Script

variable {ε α : Type}

-- =============================================================== calls

/-- The call leaves the routes alone, whatever its store makes of it. -/
def Call.SparesRoutes (c : Call) : Prop :=
  c.kind = .gateway ∨ c.isWrite = false

namespace Cluster

variable {w : Cluster}

/-- Such a call changes no route. -/
theorem routes_perform {c : Call} (spares : c.SparesRoutes) :
    (w.perform c).2.routes = w.routes := by
  cases c with
  | gateways request => rfl
  | routes request =>
    have reads : request.isWrite = false := spares.resolve_left nofun
    cases request with
    | get key => rfl
    | list => rfl
    | _ => cases reads

/-- Without writes of others, a call meets the stores as they were. -/
theorem FaultsOnly.met_answer (h : w.FaultsOnly) (c : Call) :
    (w.answer c).met.unplanned = w.unplanned := by
  obtain ⟨met, same, -, answer⟩ | ⟨met, fault, same, -, -, answer⟩ := h.answer_cases c
  · rw [answer, same]
  · rw [answer, same]

/-- Nor does it if it fails. -/
theorem FaultsOnly.routes_answer (h : w.FaultsOnly) {c : Call} (spares : c.SparesRoutes) :
    (w.answer c).after.routes = w.routes := by
  obtain ⟨met, same, -, answer⟩ | ⟨met, fault, same, -, -, answer⟩ := h.answer_cases c
  · rw [answer]
    exact (routes_perform spares).trans (congrArg (·.routes) same)
  · rw [answer]
    exact congrArg (·.routes) same

end Cluster

/-- Calls that leave the routes alone all meet them as they were. -/
theorem met_routes_of_spared {s : Script ε α} {w : Cluster} (faultsOnly : w.FaultsOnly)
    (spares : ∀ m ∈ (s.run w).moments, m.call.SparesRoutes) :
    ∀ m ∈ (s.run w).moments, m.met.routes = w.routes := by
  induction s generalizing w with
  | done result =>
    intro m made
    cases made
  | call c next ih =>
    intro m made
    rcases List.mem_cons.1 made with isFirst | later
    · rw [isFirst]
      exact congrArg (·.routes) (faultsOnly.met_answer c)
    · have first : c.SparesRoutes := spares _ List.mem_cons_self
      have rest := ih _ (faultsOnly.answer c).2
        (fun m later => spares m (List.mem_cons_of_mem _ later)) m later
      exact rest.trans (faultsOnly.routes_answer first)

/-- The calls of a sync leave the routes alone. -/
theorem Sync.Trace.spares {target : ObjectRef} {moments : List Moment}
    (trace : Sync.Trace target moments) : ∀ m ∈ moments, m.call.SparesRoutes := by
  intro m made
  cases trace with
  | read met reply =>
    cases List.mem_singleton.1 made
    exact .inl rfl
  | listed met met' reply listing =>
    rcases List.mem_pair.1 made with rfl | rfl
    · exact .inl rfl
    · exact .inr rfl
  | written read write met listing backs =>
    obtain ⟨readsGateway, writesGateway⟩ := backs.onGateways
    simp only [List.mem_cons, List.not_mem_nil, or_false] at made
    rcases made with rfl | rfl | rfl
    · exact .inl readsGateway
    · exact .inr rfl
    · exact .inl writesGateway

/-- So do those of several. -/
theorem spares_refreshAll (targets : List ObjectRef) (w : Cluster) :
    ∀ m ∈ ((Reconcile.refreshAll targets).run w).moments, m.call.SparesRoutes := by
  induction targets generalizing w with
  | nil =>
    intro m made
    cases made
  | cons target rest ih =>
    intro m made
    rcases mem_moments_bind.1 made with first | ⟨_, -, later⟩
    · exact (trace_refresh target w).spares m first
    · exact ih _ m later

-- ============================================================== routes

/-- The stored route is the one that the event has read as far as its deletion goes;
it holds the finalizer, and unless it is deleting its bookkeeping names the gateway. -/
def Cluster.Announces (w : Cluster) (key : ObjectRef) (route : Route) (target : ObjectRef) :
    Prop :=
  ∃ stored, w.routes.get key = some stored
    ∧ stored.isDeleting = route.isDeleting ∧ stored.isManaged = true
    ∧ (route.isDeleting = false →
      stored.annotated? AnnotationKey.previousGateway = some target.toText
        ∧ (stored.annotated? AnnotationKey.reconciled).isSome = true)

namespace Cluster

variable {w after : Cluster} {key current : ObjectRef} {route : Route}

theorem Announces.of_routes (h : w.Announces key route current)
    (routes : after.routes = w.routes) : after.Announces key route current := by
  obtain ⟨stored, found, announced⟩ := h
  exact ⟨stored, by rw [routes, found], announced⟩

theorem Announces.of_deleting (found : w.routes.get key = some route)
    (deleting : route.isDeleting = true) (managed : route.isManaged = true) :
    w.Announces key route current :=
  ⟨route, found, rfl, managed, fun live => nomatch deleting.symm.trans live⟩

/-- Bookkeeping that is right already announces the gateway that it names. -/
theorem Announces.of_isRecorded (found : w.routes.get key = some route)
    (managed : route.isManaged = true)
    (recorded : Reconcile.isRecorded route current = true) : w.Announces key route current := by
  obtain ⟨reconciled, previous⟩ := Bool.and_eq_true_iff.1 recorded
  have declared : RouteSettings.declared? (route.metadata.annotations.getD .empty)
      AnnotationKey.previousGateway = some current.toText := of_decide_eq_true previous
  refine ⟨route, found, rfl, managed, fun _ => ⟨?_, ?_⟩⟩
  · rw [Object.annotated?_eq]
    exact (Option.filter_eq_some_iff.1 declared).1
  · rw [Object.annotated?_eq]
    exact reconciled

/-- A route whose bookkeeping is applied announces its gateway. -/
theorem Announces.of_replace {routes : Store RouteSpec} (replaced : after.routes
      = routes.replace key (route.recorded key current))
    (live : route.isDeleting = false) (managed : route.isManaged = true) :
    after.Announces key route current := by
  refine ⟨routes.stamped (route.recorded key current), ?_, rfl, managed, fun _ => ⟨?_, ?_⟩⟩
  · rw [replaced, get_replace_recorded live, if_pos rfl]
  · rw [Object.annotated?_eq]
    exact (Table.find?_insert _ _ _ _).trans (if_pos rfl)
  · rw [Object.annotated?_eq]
    show ((recordedIn (route.metadata.annotations.getD .empty) current).find?
      AnnotationKey.reconciled).isSome = true
    rw [recordedIn, Table.find?_insert, if_neg (by decide), Table.find?_insert, if_pos rfl]
    rfl

end Cluster

-- =============================================================== serving

section Serving

variable {config : Config} {w : Cluster} {key current : ObjectRef} {route : Route}

/-- Once the bookkeeping is dealt with, the stored route announces the gateway. -/
theorem ends_record_announces (config : Config) (found : w.routes.get key = some route)
    (live : route.isDeleting = false) (managed : route.isManaged = true) :
    (Reconcile.record config key route current).Ends mayFail w fun result after =>
      result = .ok () → after.Announces key route current := by
  refine ends_record_of (fun recorded _ => .of_isRecorded found managed recorded) fun _ => ?_
  rw [ends_request_mayFail, perform_apply_bookkeeping found]
  exact ⟨fun _ => .of_replace rfl live managed, fun e => nofun⟩

/-- While a route is served, gateways are called only if the route held the
finalizer, after it announces its gateway, and then the event ends in sync if it ends
well. -/
theorem serve_writes_ahead (config : Config) (faultsOnly : w.FaultsOnly)
    (found : w.routes.get key = some route) (live : route.isDeleting = false)
    {m : Moment} (made : m ∈ ((Reconcile.serve config key route current).run w).moments)
    (about : m.call.kind = .gateway) :
    m.met.Announces key route current
      ∧ ∀ outcome, ((Reconcile.serve config key route current).run w).result = .ok outcome →
        ∃ sync, outcome = .synced sync := by
  revert made
  refine Reconcile.serve_elim config key route current
    (J := fun s => m ∈ (s.run w).moments → m.met.Announces key route current
      ∧ ∀ outcome, (s.run w).result = .ok outcome → ∃ sync, outcome = .synced sync)
    (fun _ made => ?_) fun managed made => ?_
  · rcases mem_moments_bind.1 made with updating | ⟨_, -, done⟩
    -- holding the route calls for no gateway, and neither does recording one
    · have onRoutes := makes_updating config (attempt_addFinalizerOnce key).routes
      cases (onRoutes.moments w m updating).symm.trans about
    · cases done
  · rcases mem_moments_bind.1 made with recording | ⟨_, recorded, ensuring⟩
    · have onRoutes : (Reconcile.record config key route current).Makes
          fun c => c.kind = .httpRoute := makes_record (fun _ => rfl) config key route current
      cases (onRoutes.moments w m recording).symm.trans about
    -- the bookkeeping is done, and from here on the routes are left alone
    · have announced := run_of_faultsOnly faultsOnly
        (ends_record_announces (w := w.unplanned) config found live managed) recorded
      rcases mem_moments_bind.1 ensuring with syncing | ⟨_, -, done⟩
      · rw [moments_mapError] at syncing
        refine ⟨announced.of_routes ?_, fun outcome ended => ?_⟩
        · exact met_routes_of_spared (faultsOnly_run faultsOnly)
            (trace_ensure config current _ _).spares m syncing
        · obtain ⟨_, -, ended⟩ := result_bind_eq_ok ended
          obtain ⟨sync, -, ended⟩ := result_bind_eq_ok ended
          exact ⟨sync, (Except.ok.inj ended).symm⟩
      · cases done

/-- While a route is attached, its gateway is written only once it is announced. The
gateway that it has left is another one. -/
theorem attach_writes_ahead (config : Config) (faultsOnly : w.FaultsOnly)
    (found : w.routes.get key = some route) (live : route.isDeleting = false)
    {m : Moment} (made : m ∈ ((Reconcile.attach config key route current).run w).moments)
    (writes : m.call.writesGateway current = true) :
    m.met.Announces key route current
      ∧ ∀ outcome, ((Reconcile.attach config key route current).run w).result = .ok outcome →
        ∃ sync, outcome = .synced sync := by
  rw [attach_eq] at made ⊢
  rcases mem_moments_bind.1 made with leaving | ⟨_, -, serving⟩
  -- the gateway that is left is never the present one
  · have unlisted : current ∉ (Reconcile.leftGateway? route current).toList := fun listed =>
      (leftGateway?_eq_some (Option.mem_toList.1 listed)).1 rfl
    cases writes.symm.trans ((budget_leavePrevious route current w).spares unlisted m leaving)
  · have left : Cluster.Refreshes w.unplanned
        ((Reconcile.leavePrevious route current).run w).cluster.unplanned _ :=
      run_of_faultsOnly faultsOnly (ends_leavePrevious route current w.unplanned)
    have found' : ((Reconcile.leavePrevious route current).run w).cluster.routes.get key
        = some route := (congrArg (Store.get · key) left.routes).trans found
    obtain ⟨announced, ends⟩ := serve_writes_ahead config (faultsOnly_run faultsOnly) found' live
      serving (Call.kind_of_writesGateway writes)
    refine ⟨announced, fun outcome ended => ?_⟩
    obtain ⟨_, -, ended⟩ := result_bind_eq_ok ended
    exact ends outcome ended

/-- While a route is let go, gateways are called only as long as it is held. -/
theorem finalize_writes_ahead (config : Config) (faultsOnly : w.FaultsOnly)
    (found : w.routes.get key = some route) (deleting : route.isDeleting = true)
    (managed : route.isManaged = true)
    {m : Moment} (made : m ∈ ((Reconcile.finalize config key route).run w).moments)
    (about : m.call.kind = .gateway) :
    m.met.Announces key route current
      ∧ ∀ outcome, ((Reconcile.finalize config key route).run w).result = .ok outcome →
        outcome = .finalized := by
  rw [Reconcile.finalize_eq] at made ⊢
  rcases mem_moments_bind.1 made with refreshing | ⟨_, -, later⟩
  · rw [moments_mapError] at refreshing
    refine ⟨(Cluster.Announces.of_deleting found deleting managed).of_routes ?_,
      fun outcome ended => ?_⟩
    · exact met_routes_of_spared faultsOnly (spares_refreshAll _ w) m refreshing
    · obtain ⟨_, -, ended⟩ := result_bind_eq_ok ended
      obtain ⟨_, -, ended⟩ := result_bind_eq_ok ended
      exact (Except.ok.inj ended).symm
  · rcases mem_moments_bind.1 later with releasing | ⟨_, -, done⟩
    · have onRoutes := makes_updating config (attempt_removeFinalizerOnce key).routes
      cases (onRoutes.moments _ m releasing).symm.trans about
    · cases done

/-- Of the ways through an event two write the gateway, each when it is announced. -/
theorem handle_writes_ahead (config : Config) (faultsOnly : w.FaultsOnly)
    (found : w.routes.get key = some route) (parent : route.parent? = some current)
    {m : Moment} (made : m ∈ ((Reconcile.handle config key route).run w).moments)
    (writes : m.call.writesGateway current = true) :
    m.met.Announces key route current
      ∧ ∀ outcome, ((Reconcile.handle config key route).run w).result = .ok outcome →
        outcome = .finalized ∨ ∃ sync, outcome = .synced sync := by
  revert made
  refine Reconcile.handle_elim config key route
    (J := fun s => m ∈ (s.run w).moments → m.met.Announces key route current
      ∧ ∀ outcome, (s.run w).result = .ok outcome →
        outcome = .finalized ∨ ∃ sync, outcome = .synced sync)
    (fun deleting managed made => ?_) (fun _ _ made => nomatch made)
    (fun _ _ _ made => nomatch made) (fun _ _ _ made => nomatch made)
    fun known live _ parent' made => ?_
  · obtain ⟨announced, ends⟩ := finalize_writes_ahead config faultsOnly found deleting managed
      made (Call.kind_of_writesGateway writes)
    exact ⟨announced, fun outcome ended => .inl (ends outcome ended)⟩
  · cases parent.symm.trans parent'
    obtain ⟨announced, ends⟩ := attach_writes_ahead config faultsOnly found live made writes
    exact ⟨announced, fun outcome ended => .inr (ends outcome ended)⟩

end Serving

-- ============================================================ the event

/-- An event that finds its route handles it. -/
theorem run_reconcile_of_loads (config : Config) {w : Cluster} {key : ObjectRef} {route : Route}
    (loaded : w.Loads key route) : (reconcile config key).run w
      = ((Reconcile.handle config key route).run (w.afterRead key)).preceded
        [⟨(w.answer (.routes (.get key))).met, .routes (.get key),
          (w.answer (.routes (.get key))).reply⟩] := by
  rw [reconcile_eq, run, loaded]
  rfl

/-- What an event has read is what is stored. -/
theorem Cluster.FaultsOnly.found_of_loads {w : Cluster} (faultsOnly : w.FaultsOnly)
    {key : ObjectRef} {route : Route} (loaded : w.Loads key route) :
    w.routes.get key = some route := by
  obtain ⟨-, -, reply | ⟨e, reply⟩⟩ := faultsOnly.afterRead key
  · exact Except.ok.inj (reply.symm.trans loaded)
  · cases reply.symm.trans loaded

/-- Reading the route writes nothing and changes nothing. -/
theorem event_writes_ahead (config : Config) {w : Cluster} (faultsOnly : w.FaultsOnly)
    {key : ObjectRef} {route : Route} (loaded : w.Loads key route) {parent : ObjectRef}
    (attached : route.parent? = some parent)
    {m : Moment} (made : m ∈ ((reconcile config key).run w).moments)
    (writes : m.call.writesGateway parent = true) :
    m.met.Announces key route parent
      ∧ ∀ outcome, ((reconcile config key).run w).result = .ok outcome →
        outcome = .finalized ∨ ∃ sync, outcome = .synced sync := by
  obtain ⟨faultsOnly', same, -⟩ := faultsOnly.afterRead key
  have found : (w.afterRead key).routes.get key = some route :=
    (congrArg (·.routes.get key) same).trans (faultsOnly.found_of_loads loaded)
  rw [run_reconcile_of_loads config loaded] at made ⊢
  rcases List.mem_cons.1 made with rfl | later
  · cases writes
  · exact handle_writes_ahead config faultsOnly' found attached later writes

/-- An event that is given no route ends with that. -/
theorem calls_only_read_of_unloaded (config : Config) {w : Cluster} {key : ObjectRef}
    (unloaded : ∀ route, ¬ w.Loads key route)
    {m : Moment} (made : m ∈ ((reconcile config key).run w).moments) :
    m.call = .routes (.get key) := by
  rw [moments_reconcile] at made
  rcases List.mem_cons.1 made with rfl | later
  · rfl
  · rcases read : (w.answer (.routes (.get key))).reply with e | _ | route
    · rw [read] at later
      cases later
    · rw [read] at later
      cases later
    · exact absurd read (unloaded route)

/-- Whichever calls fail, and wherever the event breaks off: each write of the
gateway that the route attaches to was made while the stored route held the
finalizer and, unless it is deleting, named this gateway in its bookkeeping. An
event that ends well without having let the route go or brought its gateway in
line has not written that gateway, and one that finds no route calls for none. -/
theorem parent_is_written_ahead (config : Config) {w : Cluster} (faultsOnly : w.FaultsOnly)
    (key : ObjectRef) :
    let run := (reconcile config key).run w
    (∀ route parent, w.Loads key route → route.parent? = some parent →
      (∀ issued, issued <+: run.moments → ∀ m ∈ issued, m.call.writesGateway parent = true →
        m.met.Announces key route parent)
      ∧ ∀ outcome ∈ [Outcome.finalizerAdded, .disabled, .noParentRef, .notFound],
        run.result = .ok outcome → ∀ m ∈ run.moments, m.call.writesGateway parent = false)
    ∧ ((∀ route, ¬ w.Loads key route) → ∀ m ∈ run.moments, m.call.kind = .httpRoute) := by
  intro run
  refine ⟨fun route parent loaded attached => ⟨fun issued before m made writes => ?_,
    fun outcome idle ended m made => Bool.eq_false_iff.2 fun writes => ?_⟩,
    fun unloaded m made => ?_⟩
  · exact (event_writes_ahead config faultsOnly loaded attached (before.subset made) writes).1
  · have ends := (event_writes_ahead config faultsOnly loaded attached made writes).2
    obtain rfl | ⟨sync, rfl⟩ := ends outcome ended
    · simp at idle
    · simp at idle
  · exact congrArg Call.kind (calls_only_read_of_unloaded config unloaded made)

/-- Moving a managed route writes its new gateway, after naming it. -/
theorem moving_is_written_ahead :
    moving.Loads ⟨"apps", "first"⟩ moving.moved
      ∧ moving.moved.parent? = some ⟨"infra", "new"⟩
      ∧ ∃ m ∈ ((reconcile .standard ⟨"apps", "first"⟩).run moving).moments,
        m.call.writesGateway ⟨"infra", "new"⟩ = true
          ∧ m.met.Announces ⟨"apps", "first"⟩ moving.moved ⟨"infra", "new"⟩ := by
  have loaded : moving.Loads ⟨"apps", "first"⟩ moving.moved := by rfl
  have parent : moving.moved.parent? = some ⟨"infra", "new"⟩ := by rfl
  have written : ((reconcile .standard ⟨"apps", "first"⟩).run moving).moments.any
      (·.call.writesGateway ⟨"infra", "new"⟩) = true := by decide +kernel
  obtain ⟨m, made, writes⟩ := List.any_eq_true.1 written
  exact ⟨loaded, parent, m, made, writes,
    ((parent_is_written_ahead .standard moving_faultsOnly _).1 _ _ loaded parent).1 _
      (List.prefix_refl _) m made writes⟩

end SharedGateway
