/-
Which routes a gateway publishes.

# Held or unattended

The listeners of a gateway come from all routes that attach to it, so a route may be
listed before its own first event, while nothing holds it yet: if it goes away then,
no event follows to clear up after it (`unheld_route_is_published`). That is the only
gap. The first event of a route holds it, whatever becomes of its gateway, and later
ones leave it held: so in every cluster that is reached by creating routes and
handling events, a stored route that takes part is held, or no event has seen it
(`Orderly`, `Gathers.orderly`, by induction on the history).

# What was published

An event that ends as a sync has ensured the gateway that its route attaches to, and
this gateway is none of those that it leaves (`Cluster.eventResult_eq_synced`). It is
there afterwards, with the listeners that are wanted. That it is there needs that no
gateway is deleting with nothing to hold it, which is part of the invariant: the
operator makes no such gateway, and no task leaves one behind (`Task.make_held`). So
each hostname on it is contributed by some stored route, and that route is held or
unattended (`published_hostnames_are_held_or_unattended`).
-/
import SharedGateway.Proofs.Convergence
import SharedGateway.Proofs.ExactEvent
import SharedGateway.Proofs.Policy

namespace SharedGateway

open Cluster (KeepsRoutes)

-- ============================================================= history

/-- Was the route created, and has no event of it been handled since? The latest
occurrence comes first. -/
def Unattended : List Occurrence → ObjectRef → Prop
  | [], _ => False
  | .edited other :: earlier, key => other = key ∨ Unattended earlier key
  | .handled other _ :: earlier, key => other ≠ key ∧ Unattended earlier key

/-- The clusters that are reached from an empty one by creating routes and
handling events, with what has occurred. -/
inductive Gathers (config : Config) : List Occurrence → Cluster → Prop
  | start : Gathers config [] {}
  | create {history : List Occurrence} {w : Cluster} (before : Gathers config history w)
    (route : Route) (free : w.routes.get route.ref = none)
    (enabled : route.settings.enabled = true) (attaches : route.parent? ≠ none)
    (unmanaged : route.isManaged = false) :
    Gathers config (.edited route.ref :: history) (w.edit (.routes (.request (.create route))))
  | handle {history : List Occurrence} {w : Cluster} (before : Gathers config history w)
    (key : ObjectRef) :
    Gathers config (.handled key ((reconcile config key).run w).result :: history)
      ((reconcile config key).run w).cluster

-- =========================================================== invariant

variable {config : Config} {history : List Occurrence} {w : Cluster} {key : ObjectRef}
  {route route' : Route}

/-- A stored route that takes part is held, unless no event has seen it. -/
structure Admitted (history : List Occurrence) (key : ObjectRef) (route : Route) : Prop where
  ref : route.ref = key
  enabled : route.settings.enabled = true
  attaches : route.parent? ≠ none
  attended : route.isDeleting = false → route.isManaged = true ∨ Unattended history key

/-- Every stored route is admitted, and no gateway is deleting that nothing holds. -/
structure Orderly (history : List Occurrence) (w : Cluster) : Prop where
  calm : w.Calm
  held : w.Held
  routes : ∀ key route, w.routes.get key = some route → Admitted history key route

-- ============================================================== events

/-- A live route that attaches to a gateway is held after its event. -/
theorem Object.isManaged_of_aftermath (enabled : route.settings.enabled = true)
    (attaches : route.parent? ≠ none) (left : route.aftermath key = some route')
    (live : route'.isDeleting = false) : route'.isManaged = true := by
  unfold Object.aftermath at left
  split at left
  · rename_i finalizing
    cases Store.kept_eq_some left
    have deleting := (Bool.and_eq_true_iff.1 finalizing).1
    exact absurd (deleting.symm.trans live) (by decide)
  · split at left
    · rename_i idle
      rw [enabled, Bool.not_true, Bool.false_or, Option.some.inj left] at idle
      exact absurd (idle.symm.trans live) (by decide)
    · split at left
      · rename_i detached
        exact absurd detached attaches
      · exact Object.isManaged_of_served left

/-- No task leaves a gateway that is deleting while nothing holds it. -/
theorem Task.make_held {task : Task} {target : ObjectRef} {want : List Listener}
    {gateway : Option Gateway} {made : Gateway}
    (held : ∀ g, gateway = some g → g.metadata.isReleased = false)
    (makes : task.make config target want gateway = some made) :
    made.metadata.isReleased = false := by
  cases task with
  | leave => exact held made makes
  | refresh =>
    cases gateway with
    | none => cases makes
    | some g => exact Object.synced_held (held g rfl) makes
  | ensure settings => exact Sync.ensured_held held makes

/-- The route of an event is held afterwards if it is live. -/
theorem Admitted.attended_by {after : Cluster} (attended : w.Attended config key after)
    (admitted : ∀ route, w.routes.get key = some route → Admitted history key route)
    (found' : after.routes.get key = some route') (live : route'.isDeleting = false) :
    route'.isManaged = true := by
  obtain ⟨route, found, -⟩ := attended.keeps.route route' found'
  have own := attended.own
  rw [Store.view, found', found, Option.bind_some] at own
  obtain ⟨left, aftermath, same⟩ := Option.map_eq_some_iff.1 own.symm
  obtain ⟨-, enabled, attaches, -⟩ := admitted route found
  -- neither depends on the version
  have deleting : left.unversioned.isDeleting = route'.unversioned.isDeleting := by rw [same]
  have managed : left.unversioned.isManaged = route'.unversioned.isManaged := by rw [same]
  have held : left.isManaged = true :=
    Object.isManaged_of_aftermath enabled attaches aftermath (deleting.trans live)
  exact managed.symm.trans held

/-- An event holds its route. -/
theorem Orderly.handled (h : Orderly history w) (key : ObjectRef) :
    Orderly (.handled key ((reconcile config key).run w).result :: history)
      ((reconcile config key).run w).cluster := by
  have attended := (attended_run config h.calm fun route found => (h.routes key route found).ref).1
  generalize ((reconcile config key).run w).result = result
  generalize ((reconcile config key).run w).cluster = after at attended
  refine ⟨attended.calm, Cluster.held_iff_view.2 fun target made there => ?_,
    fun other route' found' => ?_⟩
  · rw [attended.gateways] at there
    exact Task.make_held (Cluster.held_iff_view.1 h.held target) there
  · by_cases same : other = key
    · subst same
      obtain ⟨route, found, continues⟩ := attended.keeps.route route' found'
      obtain ⟨ref, enabled, attaches, -⟩ := h.routes other route found
      refine ⟨continues.ref.trans ref, continues.enabled.trans enabled, continues.parent ▸ attaches,
        fun live => .inl ?_⟩
      exact Admitted.attended_by attended (h.routes other) found' live
    · obtain ⟨ref, enabled, attaches, attended'⟩ :=
        h.routes other route' ((attended.keeps.others other same).symm.trans found')
      refine ⟨ref, enabled, attaches, fun live => (attended' live).imp_right fun unattended => ?_⟩
      exact ⟨Ne.symm same, unattended⟩

/-- A new route awaits its first event. -/
theorem Orderly.created (h : Orderly history w) (free : w.routes.get route.ref = none)
    (enabled : route.settings.enabled = true) (attaches : route.parent? ≠ none) :
    Orderly (.edited route.ref :: history) (w.edit (.routes (.request (.create route)))) := by
  rw [edit_create_eq_put h.calm free]
  have placed : ∀ other, (w.edit (.routes (.put route))).routes.get other
      = if route.ref = other then some (w.routes.stamped route) else w.routes.get other :=
    fun other => w.routes.get_keep route.ref other route
  refine ⟨⟨h.calm.unplanned, h.calm.routes.keep _ _, h.calm.gateways⟩, h.held,
    fun other route' found' => ?_⟩
  rw [placed] at found'
  split at found'
  · rename_i same
    cases found'
    exact ⟨same, enabled, attaches, fun _ => .inr (.inl same)⟩
  · obtain ⟨ref, enabled, attaches, attended⟩ := h.routes other route' found'
    exact ⟨ref, enabled, attaches, fun live => (attended live).imp_right .inr⟩

/-- By induction on the history, every cluster that is reached is orderly. -/
theorem Gathers.orderly (gathers : Gathers config history w) : Orderly history w := by
  induction gathers with
  | start =>
    exact ⟨⟨fun _ => rfl, ⟨rfl, rfl, rfl⟩, ⟨rfl, rfl, rfl⟩⟩, (fun _ _ found => nomatch found),
      fun _ _ found => nomatch found⟩
  | create before route free enabled attaches unmanaged ih => exact ih.created free enabled attaches
  | handle before key ih => exact ih.handled key

-- ========================================================= publication

/-- An event that ends as a sync has ensured the gateway that its route attaches
to. -/
theorem Cluster.eventResult_eq_synced {outcome : SyncOutcome}
    (h : w.eventResult config route = .ok (.synced outcome)) :
    ∃ current, route.parent? = some current
      ∧ route.task config current = .ensure (route.settings.effective config)
      ∧ Sync.ensureResult (route.settings.effective config) (w.wanted current)
        (w.gateways.view current) = .ok outcome := by
  unfold Cluster.eventResult at h
  split at h
  · cases h
  · rename_i unfinalizing
    split at h
    · cases h
    · rename_i enabled
      split at h
      · cases h
      · rename_i live
        split at h
        · cases h
        · rename_i current parent
          unfold Cluster.serveResult at h
          split at h
          · cases h
          · rename_i managed
            split at h
            · cases h
            · rename_i ended
              cases h
              refine ⟨current, parent, ?_, ended⟩
              -- a gateway that the route attaches to is not one that it leaves
              have stays : Reconcile.leftGateway? route current ≠ some current :=
                fun leaving => (leftGateway?_eq_some leaving).1 rfl
              have attends : ¬ (!route.settings.enabled || route.isDeleting) = true :=
                fun idle => (Bool.or_eq_true_iff.1 idle).elim enabled live
              have ensures : (decide (current = current) && route.isManaged) = true := by
                simpa using managed
              rw [Object.task, if_neg unfinalizing, if_neg attends, parent]
              dsimp only
              rw [if_neg stays, if_pos ensures]

/-- An event that synced a gateway and kept it leaves it there with the listeners
that are wanted. -/
theorem synced_gateway_listed (calm : w.Calm) (held : w.Held)
    (filed : ∀ route, w.routes.get key = some route → route.ref = key) {outcome : SyncOutcome}
    (returned : ((reconcile config key).run w).result = .ok (.synced outcome))
    (notDeleted : outcome ≠ .deleted) (notAbsent : outcome ≠ .absent) :
    let after := ((reconcile config key).run w).cluster
    ∃ route current gateway, w.routes.get key = some route ∧ route.parent? = some current
      ∧ after.gateways.get current = some gateway
      ∧ gateway.spec.listeners.Perm (after.wanted current) := by
  obtain ⟨attended, ended⟩ := attended_run config calm filed
  rw [returned] at ended
  generalize ((reconcile config key).run w).cluster = after at attended
  cases found : w.routes.get key with
  | none =>
    rw [found] at ended
    cases ended
  | some route =>
    rw [found] at ended
    obtain ⟨current, parent, task, ended⟩ := Cluster.eventResult_eq_synced ended.symm
    have assigned : w.task config key current = .ensure (route.settings.effective config) := by
      rw [Cluster.task, found]
      exact task
    have view := attended.gateways current
    rw [assigned, Task.make] at view
    -- an outcome that is kept leaves the gateway in place
    obtain ⟨made, ensured, listed⟩ := @Sync.ensured_kept w current config _ _ _
      (Cluster.held_iff_view.1 held current) ended notDeleted notAbsent
    rw [ensured] at view
    obtain ⟨gateway, there, same⟩ := Option.map_eq_some_iff.1 view
    rw [← same, ← attended.wanted] at listed
    exact ⟨route, current, gateway, rfl, parent, there, listed⟩

/-- Every hostname of a gateway that an event has just ensured is contributed by a
route that is held, or that no event has seen. -/
theorem published_hostnames_are_held_or_unattended (config : Config)
    {history : List Occurrence} {w : Cluster} (gathers : Gathers config history w)
    {key : ObjectRef} {outcome : SyncOutcome}
    (returned : ((reconcile config key).run w).result = .ok (.synced outcome))
    (kept : outcome = .created ∨ outcome = .patched ∨ outcome = .unchanged) :
    let run := (reconcile config key).run w
    ∃ route current gateway, w.routes.get key = some route ∧ route.parent? = some current
      ∧ run.cluster.gateways.get current = some gateway
      ∧ ∀ hostname, gateway.lists hostname → ∃ other route',
        run.cluster.routes.get other = some route' ∧ route'.serves current hostname
          ∧ (route'.isManaged = true ∨ Unattended (.handled key run.result :: history) other) := by
  intro run
  have before := gathers.orderly
  have after := (Gathers.handle gathers key).orderly
  obtain ⟨route, current, gateway, found, parent, there, listed⟩ :=
    synced_gateway_listed before.calm before.held (fun route found => (before.routes _ _ found).ref)
      returned (by rintro rfl; simp at kept) (by rintro rfl; simp at kept)
  refine ⟨route, current, gateway, found, parent, there, fun hostname lists => ?_⟩
  obtain ⟨other, route', found', serves⟩ := (lists_iff_contributed listed hostname).1 lists
  have live := (Object.live_of_serves serves).1
  exact ⟨other, route', found', serves, (after.routes other route' found').attended live⟩

-- ========================================================== latecomers

/-- Two routes of one gateway were created, and the first has had an event. -/
def crowd : Cluster :=
  ((reconcile .standard ⟨"apps", "first"⟩).run (created.edit
    (.routes (.request (.create (route "second" "b.example.com")))))).cluster
where
  route (name hostname : String) : Route :=
    Route.optedIn ⟨"apps", name⟩ ⟨"infra", "edge"⟩ hostname [] []
  created : Cluster :=
    ({} : Cluster).edit (.routes (.request (.create (route "first" "a.example.com"))))

/-- This is reached by two creations and an event. -/
theorem crowd_gathers : ∃ result, Gathers .standard
    [.handled ⟨"apps", "first"⟩ result, .edited ⟨"apps", "second"⟩, .edited ⟨"apps", "first"⟩]
    crowd := by
  have first : Gathers .standard [.edited ⟨"apps", "first"⟩] crowd.created :=
    .create .start (crowd.route "first" "a.example.com") rfl rfl (by decide) rfl
  exact ⟨_, .handle (.create first (crowd.route "second" "b.example.com") rfl rfl (by decide)
    rfl) ⟨"apps", "first"⟩⟩

/-- The next event of the first route creates the gateway. -/
theorem crowd_synced :
    ((reconcile .standard ⟨"apps", "first"⟩).run crowd).result = .ok (.synced .created) := by
  decide +kernel

/-- The next event of the first route creates the gateway, and every hostname on
it comes from a route that is held or that no event has seen. -/
theorem crowd_is_held_or_unattended :
    let run := (reconcile .standard ⟨"apps", "first"⟩).run crowd
    ∃ history gateway, Gathers .standard history crowd
      ∧ run.cluster.gateways.get ⟨"infra", "edge"⟩ = some gateway
      ∧ ∀ hostname, gateway.lists hostname → ∃ other route',
        run.cluster.routes.get other = some route'
          ∧ route'.serves ⟨"infra", "edge"⟩ hostname
          ∧ (route'.isManaged = true
            ∨ Unattended (.handled ⟨"apps", "first"⟩ run.result :: history) other) := by
  intro run
  obtain ⟨result, gathers⟩ := crowd_gathers
  obtain ⟨route, current, gateway, found, parent, there, published⟩ :=
    published_hostnames_are_held_or_unattended .standard gathers crowd_synced (.inl rfl)
  have attached : (crowd.routes.get ⟨"apps", "first"⟩).bind (·.parent?)
      = some ⟨"infra", "edge"⟩ := by decide +kernel
  rw [found, Option.bind_some, parent] at attached
  cases attached
  exact ⟨_, gateway, gathers, there, published⟩

/-- The second route is published with the first, though nothing holds it. -/
theorem unheld_route_is_published :
    ¬ ∀ (config : Config) (history : List Occurrence) (w : Cluster) (key current : ObjectRef)
      (route : Route) (outcome : SyncOutcome) (gateway : Gateway), Gathers config history w →
      ((reconcile config key).run w).result = .ok (.synced outcome) →
      (outcome = .created ∨ outcome = .patched ∨ outcome = .unchanged) →
      w.routes.get key = some route → route.parent? = some current →
      ((reconcile config key).run w).cluster.gateways.get current = some gateway →
      ∀ hostname, gateway.lists hostname → ∃ other route',
        ((reconcile config key).run w).cluster.routes.get other = some route'
          ∧ route'.serves current hostname ∧ route'.isManaged = true := by
  intro claim
  let after := ((reconcile .standard ⟨"apps", "first"⟩).run crowd).cluster
  obtain ⟨result, gathers⟩ := crowd_gathers
  have stored : ((crowd.routes.get ⟨"apps", "first"⟩).bind (·.parent?))
      = some ⟨"infra", "edge"⟩ := by decide +kernel
  obtain ⟨route, found, parent⟩ := Option.bind_eq_some_iff.1 stored
  have listed : (after.gateways.get ⟨"infra", "edge"⟩).map (fun gateway =>
      gateway.spec.listeners.contains (.https "b.example.com" "infra")) = some true := by
    decide +kernel
  obtain ⟨gateway, there, listed⟩ := Option.map_eq_some_iff.1 listed
  have lists : gateway.lists "b.example.com" :=
    ⟨.https "b.example.com" "infra", by simpa using listed, rfl⟩
  obtain ⟨other, route', found', ⟨-, named, -⟩, managed⟩ := claim .standard _ crowd
    ⟨"apps", "first"⟩ ⟨"infra", "edge"⟩ route .created gateway gathers crowd_synced (.inl rfl)
    found parent there "b.example.com" lists
  have unheld : after.routes.list.all (fun route =>
      !(route.isManaged && route.spec.hostnames.contains "b.example.com")) = true := by
    decide +kernel
  have others := List.all_eq_true.1 unheld route' (Store.mem_list.2 ⟨other, found'⟩)
  rw [managed, Bool.true_and, Bool.not_eq_true', List.contains_eq_mem,
    decide_eq_false_iff_not] at others
  exact others named

end SharedGateway
