/-
Every gateway ends up in line.

# Histories

Routes are created, edited, moved and deleted while events are handled in any order,
more than once or in vain (`Reaches`). All that is asked is that every edited route
is handled to the end once after its last edit (`Awaits`); nothing is asked of the
order, of how many edits come between two events, or of events of routes that nobody
edited. Then every gateway that somebody wants is there with the listeners that are
wanted, and no other gateway is (`gateways_converge`).

# Who is to blame

The invariant says who is to blame for what is out of line: a gateway that is missing
though a route wants it, or that is stale, concerns a route that still awaits its
event (`Invariant`). It is kept by each occurrence.

- An edit makes the edited route await an event, so it only has to see to it that the
  route goes on being concerned with what it was concerned with (`Invariant.edited`).
  That is why a route may move or be deleted only while it is served: its bookkeeping
  then names the gateway that it moves away from.
- An event ends the wait of one route, so it has to tend to every gateway that
  concerns this one (`Invariant.handled`). An event that fails, or only adds the
  finalizer, does not end the wait.

By induction on the history the invariant holds in every cluster that is reached.
When no route awaits an event any more, nobody is left to blame, and nothing is out
of line.
-/
import SharedGateway.Proofs.CalmEvent

namespace SharedGateway

-- ============================================================= history

/-- What happens to the routes of a cluster, as far as the operator has to
answer to it. -/
inductive Occurrence where
  | edited (key : ObjectRef)
  /-- An event was handled, with this result. -/
  | handled (key : ObjectRef) (result : Except ReconcileError Outcome)

/-- Was the route edited, and not handled to the end since? The latest
occurrence comes first. -/
def Awaits : List Occurrence → ObjectRef → Prop
  | [], _ => False
  | .edited other :: earlier, key => other = key ∨ Awaits earlier key
  | .handled other result :: earlier, key =>
    Awaits earlier key ∧ ¬ (other = key ∧ Settles result)

namespace Object

/-- The route with other hostnames. -/
def withHostnames (route : Route) (hostnames : List String) : Route :=
  { route with spec := { route.spec with hostnames } }

/-- The route with another first parent. -/
def withFirstParent (route : Route) (first : ParentRef) : Route :=
  { route with spec := { route.spec with parents := first :: route.spec.parents.tail } }

/-- Does the route hold the finalizer, and does its bookkeeping name the gateway
that it attaches to? -/
def IsServed (route : Route) : Prop :=
  route.isManaged = true ∧ route.settings.previous? = route.parent?

end Object

/-- The clusters that are reached from an empty one, with what has occurred. A
route may be created with any finalizers and bookkeeping; it may move or be
deleted while it is served. -/
inductive Reaches (config : Config) (settings : GatewaySettings) :
    List Occurrence → Cluster → Prop
  | start : Reaches config settings [] {}
  | create {history : List Occurrence} {w : Cluster} (before : Reaches config settings history w)
    (route : Route) (free : w.routes.get route.ref = none)
    (enabled : route.settings.enabled = true) (attaches : route.AttachesPlainly)
    (agrees : route.settings.effective config = settings) :
    Reaches config settings (.edited route.ref :: history)
      (w.edit (.routes (.request (.create route))))
  | rename {history : List Occurrence} {w : Cluster} (before : Reaches config settings history w)
    {key : ObjectRef} {route : Route} (found : w.routes.get key = some route)
    (hostnames : List String) :
    Reaches config settings (.edited key :: history)
      (w.edit (.routes (.put (route.withHostnames hostnames))))
  | move {history : List Occurrence} {w : Cluster} (before : Reaches config settings history w)
    {key : ObjectRef} {route : Route} (found : w.routes.get key = some route)
    (served : route.IsServed) (first : ParentRef)
    (attaches : (route.withFirstParent first).AttachesPlainly) :
    Reaches config settings (.edited key :: history)
      (w.edit (.routes (.put (route.withFirstParent first))))
  | delete {history : List Occurrence} {w : Cluster} (before : Reaches config settings history w)
    {key : ObjectRef} {route : Route} (found : w.routes.get key = some route)
    (served : route.IsServed) (version : Option String) :
    Reaches config settings (.edited key :: history)
      (w.edit (.routes (.request (.delete key version))))
  | handle {history : List Occurrence} {w : Cluster} (before : Reaches config settings history w)
    (key : ObjectRef) :
    Reaches config settings (.handled key ((reconcile config key).run w).result :: history)
      ((reconcile config key).run w).cluster

-- =========================================================== invariant

/-- Whatever is out of line concerns a route that awaits its event. -/
structure Invariant (config : Config) (settings : GatewaySettings) (awaits : ObjectRef → Prop)
    (w : Cluster) : Prop where
  calm : w.Calm
  routes : ∀ key route, w.routes.get key = some route → Sound config settings key route
  gateways : ∀ target, w.Made config settings target
  missing : ∀ target, w.gateways.get target = none → ∀ key route hostname,
    w.routes.get key = some route → route.serves target hostname → awaits key
  stale : ∀ target, w.Stale target → ∃ key route, w.routes.get key = some route
    ∧ route.Concerns target ∧ awaits key

-- ================================================================ edits

section Edits

variable {config : Config} {settings : GatewaySettings} {awaits : ObjectRef → Prop}
  {w after : Cluster} {key : ObjectRef} {route' : Route}

/-- An edit of one route keeps the invariant, if the route goes on being
concerned with what it was concerned with: it awaits an event now. -/
theorem Invariant.edited (h : Invariant config settings awaits w) (calm : after.Calm)
    (gateways : after.gateways = w.gateways)
    (others : ∀ other, other ≠ key → after.routes.get other = w.routes.get other)
    (found' : after.routes.get key = some route') (sound : Sound config settings key route')
    (concerned : ∀ route, w.routes.get key = some route → ∀ target, route.Concerns target →
      route'.Concerns target) :
    Invariant config settings (fun other => key = other ∨ awaits other) after where
  calm := calm
  routes other route found := by
    by_cases same : other = key
    · subst same
      cases found'.symm.trans found
      exact sound
    · exact h.routes other route ((others other same).symm.trans found)
  gateways target :=
    (Cluster.made_congr (congrArg (Store.get · target) gateways)).2 (h.gateways target)
  missing target missing other route hostname found serves := by
    by_cases same : other = key
    · exact .inl same.symm
    · rw [gateways] at missing
      rw [others other same] at found
      exact .inr (h.missing target missing other route hostname found serves)
  stale target stale := by
    -- whatever concerns the edited route is excused: it awaits its event now
    by_cases concerns : route'.Concerns target
    · exact ⟨key, route', found', concerns, .inl rfl⟩
    · -- the route contributes nothing to this gateway, before the edit or after it
      have apart : ∀ route, w.routes.get key = some route → ¬ route.Concerns target :=
        fun route found was => concerns (concerned route found target was)
      have wanted : after.wanted target = w.wanted target := by
        refine Cluster.wanted_of_apart others (fun route found hostname serves => ?_)
          fun route found hostname serves => ?_
        · exact apart route found (Object.concerns_of_serves serves)
        · cases found'.symm.trans found
          exact concerns (Object.concerns_of_serves serves)
      have same := Cluster.stale_congr (congrArg (Store.get · target) gateways) wanted
      obtain ⟨other, route, found, was, waits⟩ := h.stale target (same.1 stale)
      have differ : other ≠ key := by
        intro same
        subst same
        exact apart route found was
      exact ⟨other, route, (others other differ).trans found, was, .inr waits⟩

/-- A route is put in the place of one of its name, or in a free place. -/
theorem Invariant.put (h : Invariant config settings awaits w)
    (sound : Sound config settings key route')
    (concerned : ∀ route, w.routes.get key = some route → ∀ target, route.Concerns target →
      route'.Concerns target) :
    Invariant config settings (fun other => key = other ∨ awaits other)
      (w.edit (.routes (.put route'))) := by
  have placed : ∀ other, (w.edit (.routes (.put route'))).routes.get other
      = if key = other then some (w.routes.stamped route') else w.routes.get other := by
    intro other
    rw [← sound.ref]
    exact w.routes.get_keep route'.ref other route'
  have calm : (w.edit (.routes (.put route'))).Calm :=
    ⟨h.calm.unplanned, h.calm.routes.keep _ _, h.calm.gateways⟩
  refine h.edited calm rfl (fun other differ => ?_) ((placed key).trans (if_pos rfl))
    (sound.continues ((Object.Continues.refl route').withVersion _)) concerned
  exact (placed other).trans (if_neg (Ne.symm differ))

/-- Creating a route in a free place is putting it there. -/
theorem edit_create_eq_put (calm : w.Calm) {route : Route} (free : w.routes.get route.ref = none) :
    w.edit (.routes (.request (.create route))) = w.edit (.routes (.put route)) := by
  show { w with routes := (w.routes.create route).2 } = { w with routes := (w.routes.put route).2 }
  rw [calm.routes.create_eq free]
  rfl

/-- A deletion of a route that is served marks it, or does nothing. -/
theorem Invariant.delete (h : Invariant config settings awaits w) {route : Route}
    (found : w.routes.get key = some route) (served : route.IsServed)
    (version : Option String) :
    Invariant config settings (fun other => key = other ∨ awaits other)
      (w.edit (.routes (.request (.delete key version)))) := by
  have calm : (w.edit (.routes (.request (.delete key version)))).Calm :=
    ⟨h.calm.unplanned, h.calm.routes.perform (.delete key version), h.calm.gateways⟩
  have sound := h.routes key route found
  obtain ⟨-, same⟩ | ⟨known, found', -, others, left⟩ := w.routes.delete_cases key version
  · have unchanged : (w.edit (.routes (.request (.delete key version)))).routes = w.routes := same
    have kept : (w.edit (.routes (.request (.delete key version)))).routes.get key
        = some route := by rw [unchanged, found]
    refine h.edited calm rfl (fun other _ => by rw [unchanged]) kept sound
      fun known found' target was => ?_
    cases found.symm.trans found'
    exact was
  · cases found.symm.trans found'
    obtain ⟨free, -⟩ | ⟨-, time, newVersion, marked⟩ := left
    · -- the finalizer holds it
      have managed := served.1
      rw [Object.isManaged, free] at managed
      cases managed
    · refine h.edited calm rfl others marked
        ⟨sound.ref, sound.enabled, sound.attaches, sound.agrees⟩ fun known found' target was => ?_
      cases found.symm.trans found'
      exact ⟨.inr served.1, was.2⟩

end Edits

-- =============================================================== events

/-- An event keeps the invariant, though its route awaits none any more if the
event was handled to the end. -/
theorem Invariant.handled {config : Config} {settings : GatewaySettings}
    {awaits : ObjectRef → Prop} {w after : Cluster} {key : ObjectRef}
    {result : Except ReconcileError Outcome} (h : Invariant config settings awaits w)
    (attends : Attends config settings key [] w after result) :
    Invariant config settings (fun other => awaits other ∧ ¬ (key = other ∧ Settles result))
      after := by
  obtain ⟨targets, repairs⟩ := attends.repairs
  refine ⟨repairs.calm, fun other route' found' => ?_, repairs.made,
    fun target gone other route' hostname found' serves => ?_, fun target stale => ?_⟩
  · by_cases same : other = key
    · subst same
      obtain ⟨route, found, continues⟩ := attends.routes.route route' found'
      exact (h.routes other route found).continues continues
    · exact h.routes other route' ((attends.routes.others other same).symm.trans found')
  -- a gateway that is gone was gone before, or nobody wants it, which is not so here
  · have missing : w.gateways.get target = none := by
      refine (repairs.missing target gone).resolve_right fun unwanted => ?_
      have unwanted : after.wanted target = [] := (repairs.wanted target).trans unwanted
      exact Cluster.wanted_eq_nil_iff.1 unwanted other route' found' hostname serves
    by_cases same : other = key
    · subst same
      obtain ⟨route, found, continues⟩ := attends.routes.route route' found'
      have serves := (continues.serves target hostname).1 serves
      exact ⟨h.missing target missing other route hostname found serves,
        fun ⟨_, settled⟩ => attends.served settled route found target hostname serves gone⟩
    · have found := (attends.routes.others other same).symm.trans found'
      exact ⟨h.missing target missing other route' hostname found serves,
        fun ⟨handled, _⟩ => same handled.symm⟩
  · obtain ⟨other, route, found, concerns, waits⟩ := h.stale target (repairs.stale target stale).1
    by_cases same : other = key
    · subst same
      obtain ⟨unsettled, route', found', concerns'⟩ :=
        attends.concerned route found target concerns List.not_mem_nil stale
      exact ⟨other, route', found', concerns', waits, fun ⟨_, settled⟩ => unsettled settled⟩
    · exact ⟨other, route, (attends.routes.others other same).trans found, concerns, waits,
        fun ⟨handled, _⟩ => same handled.symm⟩

-- ========================================================== convergence

/-- The invariant holds throughout, by induction on the history. -/
theorem invariant_of_reaches {config : Config} {settings : GatewaySettings}
    {history : List Occurrence} {w : Cluster} (reached : Reaches config settings history w) :
    Invariant config settings (Awaits history) w := by
  induction reached with
  | start =>
    refine ⟨⟨fun _ => rfl, ⟨rfl, rfl, rfl⟩, ⟨rfl, rfl, rfl⟩⟩, ?_, fun _ => .inl rfl, ?_, ?_⟩
    · exact fun key route found => nomatch found
    · exact fun target _ key route hostname found => nomatch found
    · rintro target ⟨gateway, there, -⟩
      cases there
  | create before route free enabled attaches agrees ih =>
    rw [edit_create_eq_put ih.calm free]
    refine ih.put ⟨rfl, enabled, attaches, agrees⟩ fun known found => ?_
    cases free.symm.trans found
  | rename before found hostnames ih =>
    obtain ⟨ref, enabled, attaches, agrees⟩ := ih.routes _ _ found
    refine ih.put ⟨ref, enabled, attaches, agrees⟩ fun known found' target concerns => ?_
    cases found.symm.trans found'
    exact concerns
  | move before found served first attaches ih =>
    obtain ⟨ref, enabled, -, agrees⟩ := ih.routes _ _ found
    refine ih.put ⟨ref, enabled, attaches, agrees⟩ fun known found' target concerns => ?_
    cases found.symm.trans found'
    -- its bookkeeping goes on naming the gateway that it attached to
    have previous := concerns.2.elim (served.2.trans ·) id
    exact ⟨concerns.1, .inr previous⟩
  | delete before found served version ih => exact ih.delete found served version
  | handle before key ih =>
    exact ih.handled (Script.run_of_unplanned ih.calm.unplanned
      (ends_reconcile_calm ih.calm ih.gateways (ih.routes key)))

/-- Once every edited route has been handled to the end after its last edit, the
gateways that are there are those that somebody wants, each with the listeners
that are wanted and the settings that all routes ask for. -/
theorem gateways_converge {config : Config} {settings : GatewaySettings}
    {history : List Occurrence} {w : Cluster} (reached : Reaches config settings history w)
    (attended : ∀ key, ¬ Awaits history key) (target : ObjectRef) :
    ((w.gateways.get target).isSome = true ↔ w.wanted target ≠ [])
      ∧ ∀ gateway, w.gateways.get target = some gateway →
        gateway.spec.listeners = w.wanted target ∧ gateway.isDeleting = false
          ∧ gateway.check settings = .ok () := by
  have h := invariant_of_reaches reached
  -- whoever is to blame would await an event
  have fresh : ¬ w.Stale target := by
    intro stale
    obtain ⟨key, route, found, concerns, awaits⟩ := h.stale target stale
    exact attended key awaits
  have inLine : ∀ gateway, w.gateways.get target = some gateway →
      w.wanted target ≠ [] ∧ gateway.spec.listeners.Perm (w.wanted target) := by
    intro gateway there
    refine ⟨fun unwanted => fresh ⟨gateway, there, .inl unwanted⟩, ?_⟩
    by_contra differ
    exact fresh ⟨gateway, there, .inr differ⟩
  refine ⟨⟨fun there => ?_, fun wanted => ?_⟩, fun gateway there => ?_⟩
  · obtain ⟨gateway, there⟩ := Option.isSome_iff_exists.1 there
    exact (inLine gateway there).1
  · rw [Option.isSome_iff_ne_none]
    intro missing
    refine wanted (Cluster.wanted_eq_nil_iff.2 fun key route found hostname serves => ?_)
    exact attended key (h.missing target missing key route hostname found serves)
  · obtain missing | ⟨routes, version, recorded⟩ := h.gateways target
    · cases missing.symm.trans there
    · have perm := (inLine gateway there).2
      cases recorded.symm.trans there
      exact ⟨Aggregation.listeners_eq_of_perm perm, rfl, Gateway.check_recording _ _ _ _ _⟩

namespace Relocation

/-- A route that is to be served by the old gateway. -/
def newRoute : Route :=
  Route.optedIn ⟨"apps", "first"⟩ ⟨"infra", "old"⟩ "a.example.com" [] []

/-- The route is created, in an empty cluster. -/
def created : Cluster :=
  Cluster.edit {} (.routes (.request (.create newRoute)))

/-- The route is handled once. -/
def handled (w : Cluster) : Cluster :=
  ((reconcile .standard ⟨"apps", "first"⟩).run w).cluster

/-- Two events later the route is served. -/
def served : Cluster := handled (handled created)

set_option maxRecDepth 10000 in
theorem served_stores : (served.routes.get ⟨"apps", "first"⟩).isSome = true := by rfl

def servedRoute : Route := (served.routes.get ⟨"apps", "first"⟩).get served_stores

def newParent : ParentRef := { name := "new", ns := some "infra" }

/-- The route is moved to the new gateway and handled once more. -/
def relocated : Cluster :=
  handled (served.edit (.routes (.put (servedRoute.withFirstParent newParent))))

set_option maxRecDepth 10000 in
theorem relocated_settles : Settles ((reconcile .standard ⟨"apps", "first"⟩).run
    (served.edit (.routes (.put (servedRoute.withFirstParent newParent))))).result :=
  ⟨.synced .created, by rfl, nofun⟩

set_option maxRecDepth 10000 in
/-- A route that moves takes its listener along, and the old gateway goes. -/
theorem moved_route_takes_listener_along :
    relocated.gateways.get ⟨"infra", "old"⟩ = none
      ∧ (relocated.gateways.get ⟨"infra", "new"⟩).isSome = true
      ∧ ∀ gateway, relocated.gateways.get ⟨"infra", "new"⟩ = some gateway →
        gateway.spec.listeners = [.https "a.example.com" "infra"] := by
  have old : relocated.wanted ⟨"infra", "old"⟩ = [] := by rfl
  have new : relocated.wanted ⟨"infra", "new"⟩ = [.https "a.example.com" "infra"] := by rfl
  have reached : Reaches .standard ⟨"internpki", "hnet-private"⟩ [.edited ⟨"apps", "first"⟩]
      created :=
    .create .start newRoute rfl rfl ⟨⟨"infra", "old"⟩, rfl, by decide, by decide, by decide⟩ rfl
  have moved := ((reached.handle ⟨"apps", "first"⟩).handle ⟨"apps", "first"⟩).move
    (Option.some_get served_stores).symm ⟨by rfl, by rfl⟩ newParent
    ⟨⟨"infra", "new"⟩, by rfl, by decide, by decide, by decide⟩
  have converge := gateways_converge (moved.handle ⟨"apps", "first"⟩) fun key awaits => by
    obtain ⟨moved | ⟨⟨created | never, -⟩, -⟩, unsettled⟩ := awaits
    · exact unsettled ⟨moved, relocated_settles⟩
    · exact unsettled ⟨created, relocated_settles⟩
    · exact never
  have wanted := new.trans_ne (List.cons_ne_nil _ _)
  refine ⟨?_, (converge ⟨"infra", "new"⟩).1.2 wanted, fun gateway there => ?_⟩
  · refine Option.eq_none_iff_forall_ne_some.2 fun gateway there => ?_
    exact (converge ⟨"infra", "old"⟩).1.1 (Option.isSome_iff_exists.2 ⟨gateway, there⟩) old
  · exact ((converge ⟨"infra", "new"⟩).2 gateway there).1.trans new

end Relocation

end SharedGateway
