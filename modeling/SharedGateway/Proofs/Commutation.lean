/-
Events of different routes commute.

# One gateway

Two events meet in the gateways that both see to, and there it does not matter who
comes first. To refresh a gateway is the same as to ensure it for settings that it
agrees with; to do either twice is to do it once (`Object.synced_of_synced`); and a
gateway that is made for a route has the listeners that are wanted and so is left
alone by a refresh. A refresh may remove a gateway that is ensured next, but only if
nobody wants it, and then it is not made again (`unwanted_of_synced`). By cases on
the two tasks they can be done in either order (`Task.make_comm`).

Two tasks that ensure a gateway for different settings are left out: whichever comes
first makes the gateway its own. This is where the routes must agree, and only where
both take part and attach to the same gateway (`Cluster.tasks_agree`).

# Between the events

Nothing else passes between the two. Neither event touches the other's route, and
neither changes what the routes want, so the tasks of the second are those that it
would have been given alone (`Cluster.task_of_kept`). The cluster after both is
compared store by store, object by object, versions left out of account: the order in
which versions were stamped is the one thing that the order of the events decides
(`events_commute`).
-/
import SharedGateway.Proofs.ExactEvent
import SharedGateway.Proofs.Policy

namespace SharedGateway

open Cluster (Attended)
open Script

variable {config : Config} {target : ObjectRef} {want : List Listener}
  {settings : GatewaySettings}

-- ========================================================== one gateway

section Gateway

variable {gateway made : Gateway}

theorem sameListeners_refl (listeners : List Listener) :
    Sync.sameListeners listeners listeners = true := by
  simp [Sync.sameListeners]

/-- A gateway that keeps the listeners that are wanted is kept as it is. -/
theorem Object.synced_of_listed (wanted : ¬ want.isEmpty = true)
    (listed : gateway.spec.listeners = want) : gateway.synced want = some gateway := by
  rw [Object.synced, if_neg wanted, listed, if_pos (sameListeners_refl want)]

/-- A gateway that was synced is left alone by the next sync. -/
theorem Object.synced_of_synced (held : gateway.metadata.isReleased = false)
    (synced : gateway.synced want = some made) : made.synced want = some made := by
  by_cases unwanted : want.isEmpty = true
  · -- it is going away, and marked already
    rw [Object.synced, if_pos unwanted, Store.deleted] at synced
    rw [Object.synced, if_pos unwanted, Store.deleted]
    split at synced
    · cases synced
    · rename_i claimed
      split at synced
      · rename_i deleting
        cases synced
        rw [if_neg claimed, if_pos deleting]
      · cases synced
        exact (if_neg claimed).trans (if_pos rfl)
  · rw [Object.synced, if_neg unwanted] at synced
    split at synced
    · rename_i same
      cases synced
      rw [Object.synced, if_neg unwanted, if_pos same]
    · have stays : (gateway.withListeners want).metadata.isReleased = false := held
      rw [Store.kept, stays] at synced
      cases synced
      exact Object.synced_of_listed unwanted rfl

/-- A sync removes a gateway only if nobody wants it. -/
theorem unwanted_of_synced (held : gateway.metadata.isReleased = false)
    (synced : gateway.synced want = none) : want.isEmpty = true := by
  by_contra wanted
  rw [Object.synced, if_neg wanted] at synced
  split at synced
  · cases synced
  · have stays : (gateway.withListeners want).metadata.isReleased = false := held
    rw [Store.kept, stays] at synced
    cases synced

end Gateway

-- =============================================================== tasks

namespace Task

variable {gateway : Option Gateway}

/-- A task leaves a gateway alone or syncs it. -/
theorem make_some (task : Task) (gateway : Gateway) :
    task.make config target want (some gateway) = some gateway
      ∨ task.make config target want (some gateway) = gateway.synced want := by
  cases task with
  | leave => exact .inl rfl
  | refresh => exact .inr rfl
  | ensure settings =>
    rw [make, Sync.ensured]
    split
    · exact .inr rfl
    · exact .inl rfl

/-- A task leaves a gateway alone that is as a sync would have it. -/
theorem make_of_synced {task : Task} {gateway : Gateway}
    (synced : gateway.synced want = some gateway) :
    task.make config target want (some gateway) = some gateway := by
  obtain same | same := @make_some config target want task gateway
  · exact same
  · exact same.trans synced

/-- A task makes no gateway that nobody wants. -/
theorem make_missing (task : Task) (unwanted : want.isEmpty = true) :
    task.make config target want none = none := by
  cases task with
  | leave => rfl
  | refresh => rfl
  | ensure settings => rw [make, Sync.ensured, if_pos unwanted]

/-- Refreshing a gateway and ensuring it can be done in either order. -/
theorem make_refresh_ensure (settings : GatewaySettings)
    (held : ∀ g, gateway = some g → g.metadata.isReleased = false) :
    Task.refresh.make config target want ((Task.ensure settings).make config target want gateway)
      = (Task.ensure settings).make config target want
        (Task.refresh.make config target want gateway) := by
  cases gateway with
  | none =>
    show _ = (Task.ensure settings).make config target want none
    by_cases wanted : want.isEmpty = true
    · rw [make_missing _ wanted, make_missing _ wanted]
    · have made : (Task.ensure settings).make config target want none
          = some (Gateway.recording target settings config.gatewayClass want) := by
        rw [make, Sync.ensured, if_neg wanted]
      rw [made]
      exact make_of_synced (Object.synced_of_listed wanted rfl)
  | some g =>
    have refreshed : Task.refresh.make config target want (some g) = g.synced want := rfl
    obtain ensured | ensured := @make_some config target want (.ensure settings) g
    all_goals rw [ensured, refreshed]
    · cases synced : g.synced want with
      | none => rw [make_missing _ (unwanted_of_synced (held g rfl) synced)]
      | some made => rw [make_of_synced (Object.synced_of_synced (held g rfl) synced)]
    · cases synced : g.synced want with
      | none =>
        have unwanted := unwanted_of_synced (held g rfl) synced
        rw [make_missing _ unwanted, make_missing _ unwanted]
      | some made =>
        have again := Object.synced_of_synced (held g rfl) synced
        rw [make_of_synced again, make_of_synced again]

/-- Two tasks can be done in either order, unless they ensure the gateway for
different settings. -/
theorem make_comm {task other : Task}
    (agree : ∀ s s', task = .ensure s → other = .ensure s' → s = s')
    (held : ∀ g, gateway = some g → g.metadata.isReleased = false) :
    task.make config target want (other.make config target want gateway)
      = other.make config target want (task.make config target want gateway) := by
  cases task with
  | leave => rfl
  | refresh =>
    cases other with
    | leave => rfl
    | refresh => rfl
    | ensure settings => exact make_refresh_ensure settings held
  | ensure settings =>
    cases other with
    | leave => rfl
    | refresh => exact (make_refresh_ensure settings held).symm
    | ensure settings' =>
      cases agree settings settings' rfl rfl
      rfl

end Task

-- ============================================================== events

/-- A gateway is ensured only for a route that attaches to it. -/
theorem Object.task_eq_ensure {route : Route}
    (h : route.task config target = .ensure settings) :
    route.takesPart = true ∧ route.parent? = some target
      ∧ route.settings.effective config = settings := by
  unfold Object.task at h
  split at h
  · split at h <;> cases h
  · split at h
    · cases h
    · rename_i attends
      cases parent : route.parent? with
      | none =>
        rw [parent] at h
        cases h
      | some current =>
        rw [parent] at h
        dsimp only at h
        split at h
        · cases h
        · split at h
          · rename_i ensures
            cases h
            simp only [Bool.and_eq_true, decide_eq_true_eq] at ensures
            refine ⟨?_, by rw [ensures.1], rfl⟩
            simpa [Object.takesPart, and_comm] using attends
          · cases h

section Both

variable {w one other after after' : Cluster} {first second : ObjectRef}

theorem Cluster.task_of_kept {key : ObjectRef} (kept : after.routes.get key = w.routes.get key) :
    after.task config key target = w.task config key target := by
  rw [Cluster.task, kept, Cluster.task]

/-- Two events ensure a gateway for the same settings if their routes agree. -/
theorem Cluster.tasks_agree (agree : ∀ route other parent, w.routes.get first = some route →
      w.routes.get second = some other → route.takesPart = true → other.takesPart = true →
      route.parent? = some parent → other.parent? = some parent →
      route.settings.effective config = other.settings.effective config)
    {settings settings' : GatewaySettings}
    (ensures : w.task config first target = .ensure settings)
    (ensures' : w.task config second target = .ensure settings') : settings = settings' := by
  unfold Cluster.task at ensures ensures'
  cases found : w.routes.get first with
  | none =>
    rw [found] at ensures
    cases ensures
  | some route =>
    cases found' : w.routes.get second with
    | none =>
      rw [found'] at ensures'
      cases ensures'
    | some route' =>
      rw [found] at ensures
      rw [found'] at ensures'
      obtain ⟨takesPart, parent, rfl⟩ := Object.task_eq_ensure ensures
      obtain ⟨takesPart', parent', rfl⟩ := Object.task_eq_ensure ensures'
      exact agree route route' target found found' takesPart takesPart' parent parent'

/-- Each of two events writes its own route as it would alone, whichever comes
first. -/
theorem Cluster.Attended.routes_comm (differ : first ≠ second)
    (isFirst : Attended config first w one) (thenSecond : Attended config second one after)
    (isSecond : Attended config second w other) (thenFirst : Attended config first other after')
    (key : ObjectRef) : after.routes.view key = after'.routes.view key := by
  by_cases same : key = first
  · subst same
    rw [thenFirst.own, isSecond.keeps.others key differ, ← isFirst.own, Store.view,
      thenSecond.keeps.others key differ, Store.view]
  · by_cases same' : key = second
    · subst same'
      rw [thenSecond.own, isFirst.keeps.others key same, ← isSecond.own, Store.view, Store.view,
        thenFirst.keeps.others key same]
    · rw [Store.view, thenSecond.keeps.others key same', isFirst.keeps.others key same,
        Store.view, thenFirst.keeps.others key same, isSecond.keeps.others key same']

end Both

/-- Events of different routes commute, but for the versions that they stamp, if
the two routes agree wherever they attach to the same gateway. -/
theorem events_commute (config : Config) {w : Cluster} (calm : w.Calm) (filed : w.Filed)
    (held : w.Held) {first second : ObjectRef} (differ : first ≠ second)
    (agree : ∀ route other parent, w.routes.get first = some route →
      w.routes.get second = some other → route.takesPart = true → other.takesPart = true →
      route.parent? = some parent → other.parent? = some parent →
      route.settings.effective config = other.settings.effective config) :
    let after (w : Cluster) (key : ObjectRef) := ((reconcile config key).run w).cluster
    (∀ key, (after (after w first) second).routes.view key
        = (after (after w second) first).routes.view key)
      ∧ ∀ key, (after (after w first) second).gateways.view key
        = (after (after w second) first).gateways.view key := by
  intro after
  have isFirst : Attended config first w (after w first) :=
    (attended_run config calm (filed first)).1
  have isSecond : Attended config second w (after w second) :=
    (attended_run config calm (filed second)).1
  have second_kept := isFirst.keeps.others second (Ne.symm differ)
  have first_kept := isSecond.keeps.others first differ
  have thenSecond : Attended config second (after w first) (after (after w first) second) :=
    (attended_run config isFirst.calm (second_kept ▸ filed second)).1
  have thenFirst : Attended config first (after w second) (after (after w second) first) :=
    (attended_run config isSecond.calm (first_kept ▸ filed first)).1
  refine ⟨Attended.routes_comm differ isFirst thenSecond isSecond thenFirst, fun target => ?_⟩
  -- either way both tasks are done, and they are those of the routes as they were
  rw [thenSecond.gateways, Cluster.task_of_kept second_kept, isFirst.wanted, isFirst.gateways,
    thenFirst.gateways, Cluster.task_of_kept first_kept, isSecond.wanted, isSecond.gateways]
  exact Task.make_comm
    (fun _ _ ensures ensures' => (Cluster.tasks_agree agree ensures' ensures).symm)
    (Cluster.held_iff_view.1 held target)

/-- Two routes of a gateway that is still missing, of which one comes from
another gateway. -/
def gathering : Cluster where
  routes := { objects := .ofList [
    (⟨"apps", "first"⟩,
      Route.optedIn ⟨"apps", "first"⟩ ⟨"infra", "new"⟩ "a.example.com"
        [(AnnotationKey.reconciled, "true"), (AnnotationKey.previousGateway, "infra/old")]
        [finalizer]),
    (⟨"apps", "second"⟩,
      Route.optedIn ⟨"apps", "second"⟩ ⟨"infra", "new"⟩ "b.example.com" [] [finalizer])] }
  gateways := { objects := .ofList [
    (⟨"infra", "old"⟩,
      Gateway.recording ⟨"infra", "old"⟩ ⟨"internpki", "hnet-private"⟩ "eg"
        [.https "a.example.com" "infra"])] }

/-- Both routes are stored under their own names, and agree. -/
theorem gathering_routes {key : ObjectRef} {route : Route}
    (found : gathering.routes.get key = some route) :
    route.ref = key ∧ route.settings.effective .standard = ⟨"internpki", "hnet-private"⟩ := by
  have stored : (key, route) ∈ [(⟨"apps", "first"⟩, _), (⟨"apps", "second"⟩, _)] :=
    Table.find?_eq_some_iff.1 found
  rcases List.mem_cons.1 stored with isFirst | stored
  · cases isFirst
    exact ⟨rfl, rfl⟩
  · cases List.mem_singleton.1 stored
    exact ⟨rfl, rfl⟩

/-- Whichever route comes first, the old gateway goes and the new one is the same. -/
theorem routes_gather_in_either_order :
    let after (w : Cluster) (key : ObjectRef) := ((reconcile .standard key).run w).cluster
    let one := after (after gathering ⟨"apps", "first"⟩) ⟨"apps", "second"⟩
    let other := after (after gathering ⟨"apps", "second"⟩) ⟨"apps", "first"⟩
    one.gateways.view ⟨"infra", "old"⟩ = other.gateways.view ⟨"infra", "old"⟩
      ∧ one.gateways.view ⟨"infra", "new"⟩ = other.gateways.view ⟨"infra", "new"⟩ := by
  have held : gathering.Held := by
    intro target gateway found
    have stored : (target, gateway) ∈ [(⟨"infra", "old"⟩, _)] := Table.find?_eq_some_iff.1 found
    cases List.mem_singleton.1 stored
    rfl
  obtain ⟨-, gateways⟩ := @events_commute .standard gathering
    ⟨fun _ => rfl, ⟨rfl, rfl, rfl⟩, ⟨rfl, rfl, rfl⟩⟩ (fun _ _ found => (gathering_routes found).1)
    held ⟨"apps", "first"⟩ ⟨"apps", "second"⟩ (by decide)
    fun route other parent found found' _ _ _ _ =>
      (gathering_routes found).2.trans (gathering_routes found').2.symm
  exact ⟨gateways _, gateways _⟩

end SharedGateway
