/-
Routes that disagree with a gateway.

# What is listed

Ensuring a gateway holds it against the settings of one route, but its listeners are
computed from all routes: what a gateway lists is what any attached route
contributes, whoever agrees with it (`ensured_gateway_lists_contributions`). So a
route that disagrees is listed as soon as the gateway is ensured for a route that
agrees (`rejected_route_is_listed`), and every hostname comes from a route in
agreement only if all that is contributed does.

# What a rejecting gateway goes through

Refreshing a gateway holds it against nobody's settings. So a gateway that rejects
every route that attaches to it (`Standoff`) is left as it is by events and deletions
of routes until a route leaves it (`Standoff.change`), which is the step of the
argument: an event that changes a gateway has a route that leaves it, or one that
attaches to it and agrees, and here none agrees.

The step can be repeated. The event of a route that leaves the gateway brings it in
line and keeps its records; routes keep their parents and settings, or go. So if the
gateway still stands, it still rejects every route that attaches to it
(`Standoff.done`), and by induction over the deeds every change that it goes through
as long as it stands is of this one kind (`ChangedByLeavingOnly`). In particular the
first one is (`FirstChangedByLeaving`, `ChangedByLeavingOnly.first`), which says what
becomes of the gateway in every run: it stays as it is, or a route leaves it.
-/
import Mathlib.Data.List.Induction
import SharedGateway.Proofs.Event

namespace SharedGateway

open Cluster (mayFail)
open Script

-- ======================================================= contributions

/-- The gateway has a listener for the hostname. -/
def Object.lists (gateway : Gateway) (hostname : String) : Prop :=
  ∃ l ∈ gateway.spec.listeners, l.hostname = some hostname

namespace Cluster

/-- Does some route contribute the hostname to the gateway? -/
def Contributed (w : Cluster) (target : ObjectRef) (hostname : String) : Prop :=
  ∃ key route, w.routes.get key = some route ∧ route.serves target hostname

/-- Does some route contribute the hostname whose own settings agree with the
gateway? -/
def ContributedInAgreement (w : Cluster) (config : Config) (target : ObjectRef)
    (gateway : Gateway) (hostname : String) : Prop :=
  ∃ key route, w.routes.get key = some route ∧ route.serves target hostname
    ∧ gateway.check (route.settings.effective config) = .ok ()

end Cluster

/-- A gateway in line lists what is contributed to it. -/
theorem lists_iff_contributed {w : Cluster} {target : ObjectRef} {gateway : Gateway}
    (h : gateway.spec.listeners.Perm (w.wanted target)) (hostname : String) :
    gateway.lists hostname ↔ w.Contributed target hostname := by
  unfold Object.lists Cluster.Contributed
  constructor
  · intro lists
    obtain ⟨l, listed, named⟩ := lists
    obtain ⟨contributed, ⟨route, member, serves⟩, rfl⟩ :=
      Aggregation.mem_listeners.1 (h.mem_iff.1 listed)
    obtain ⟨key, found⟩ := Store.mem_list.1 member
    cases named
    exact ⟨key, route, found, serves⟩
  · intro contributed
    obtain ⟨key, route, found, serves⟩ := contributed
    refine ⟨.https hostname target.ns, h.mem_iff.2 ?_, rfl⟩
    exact Aggregation.https_mem_listeners.2 ⟨route, Store.mem_list.2 ⟨key, found⟩, serves⟩

/-- A gateway that was ensured and is kept agrees with the settings it was
ensured for, and lists what is contributed by all routes that attach to it. So
every hostname on it comes from a route that agrees with it only if the same
holds of every hostname that is contributed. -/
theorem ensured_gateway_lists_contributions (config : Config) {w : Cluster}
    (faultsOnly : w.FaultsOnly) (target : ObjectRef) (settings : GatewaySettings)
    (gateway : Gateway) {outcome : SyncOutcome}
    (kept : outcome = .created ∨ outcome = .patched ∨ outcome = .unchanged)
    (returned : ((Sync.ensure config target settings).run w).result = .ok outcome)
    (there : ((Sync.ensure config target settings).run w).cluster.gateways.get target
      = some gateway) :
    gateway.check settings = .ok ()
      ∧ (∀ hostname, gateway.lists hostname ↔ w.Contributed target hostname)
      ∧ ((∀ hostname, gateway.lists hostname →
          w.ContributedInAgreement config target gateway hostname)
        ↔ ∀ hostname, w.Contributed target hostname →
          w.ContributedInAgreement config target gateway hostname) := by
  obtain ⟨-, ended⟩ := run_of_faultsOnly faultsOnly (ends_ensure config settings)
  have listed : gateway.spec.listeners.Perm (w.wanted target)
      ∧ gateway.check settings = .ok () := by
    obtain rfl | rfl | stored := ended outcome returned
    · simp at kept
    · simp at kept
    · exact stored gateway there
  have lists := lists_iff_contributed listed.1
  exact ⟨listed.2, lists, by simp only [lists]⟩

/-- Two routes of one gateway, of which the second declares another issuer than
the gateway records. -/
def disagreement : Cluster where
  routes := { objects := .ofList [
    (⟨"apps", "first"⟩,
      Route.optedIn ⟨"apps", "first"⟩ ⟨"infra", "edge"⟩ "a.example.com" [] []),
    (⟨"apps", "second"⟩,
      Route.optedIn ⟨"apps", "second"⟩ ⟨"infra", "edge"⟩ "b.example.com"
        [(AnnotationKey.clusterIssuer, "letsencrypt")] [])] }
  gateways := { objects := .ofList [
    (⟨"infra", "edge"⟩,
      Gateway.recording ⟨"infra", "edge"⟩ ⟨"internpki", "hnet-private"⟩ "eg"
        [.https "a.example.com" "infra"])] }

/-- The gateway of `disagreement` after it was ensured for the first route. -/
def disagreementPatched : Gateway :=
  (Gateway.recording ⟨"infra", "edge"⟩ ⟨"internpki", "hnet-private"⟩ "eg"
    [.https "a.example.com" "infra", .https "b.example.com" "infra"]).withVersion "1"

theorem disagreement_unplanned : disagreement.Unplanned := fun _ => rfl

set_option maxRecDepth 10000 in
/-- A gateway with two routes is patched to list both. -/
theorem patched_gateway_lists_both :
    disagreementPatched.lists "a.example.com" ∧ disagreementPatched.lists "b.example.com" := by
  have lists := (ensured_gateway_lists_contributions .standard
    disagreement_unplanned.faultsOnly ⟨"infra", "edge"⟩ ⟨"internpki", "hnet-private"⟩
    disagreementPatched (.inr (.inl rfl)) (by rfl) (by rfl)).2.1
  refine ⟨(lists _).2 ⟨⟨"apps", "first"⟩, _, rfl, ?_⟩, (lists _).2 ⟨⟨"apps", "second"⟩, _, rfl, ?_⟩⟩
  · exact ⟨by decide, by decide, by decide⟩
  · exact ⟨by decide, by decide, by decide⟩

set_option maxRecDepth 10000 in
/-- A route that disagrees with its gateway is listed on it all the same, as
soon as the gateway is ensured for a route that agrees. -/
theorem rejected_route_is_listed :
    ¬ ∀ (config : Config) (w : Cluster) (target : ObjectRef) (settings : GatewaySettings)
      (outcome : SyncOutcome) (gateway : Gateway), w.Unplanned →
      (outcome = .created ∨ outcome = .patched ∨ outcome = .unchanged) →
      ((Sync.ensure config target settings).run w).result = .ok outcome →
      ((Sync.ensure config target settings).run w).cluster.gateways.get target = some gateway →
      ∀ hostname, gateway.lists hostname →
        w.ContributedInAgreement config target gateway hostname := by
  intro claim
  have listed : disagreementPatched.lists "b.example.com" :=
    ⟨.https "b.example.com" "infra", by decide, rfl⟩
  obtain ⟨key, route, found, ⟨-, served, -⟩, agrees⟩ :=
    claim .standard disagreement ⟨"infra", "edge"⟩ ⟨"internpki", "hnet-private"⟩ .patched
      disagreementPatched disagreement_unplanned (.inr (.inl rfl)) (by rfl) (by rfl)
      "b.example.com" listed
  have stored : (key, route) ∈ [(⟨"apps", "first"⟩, _), (⟨"apps", "second"⟩, _)] :=
    Table.find?_eq_some_iff.1 found
  rcases List.mem_cons.1 stored with isFirst | stored
  · cases isFirst
    exact absurd served (by decide)
  · cases List.mem_singleton.1 stored
    cases agrees

-- ================================================================= runs

/-- What may happen to the routes of a cluster: the operator handles an event of
one, or somebody deletes one. -/
inductive Deed where
  | reconciled (key : ObjectRef)
  | deleted (key : ObjectRef) (version : Option String)

/-- The route that the deed is about. -/
def Deed.key : Deed → ObjectRef
  | .reconciled key => key
  | .deleted key _ => key

namespace Cluster

variable {config : Config} {w : Cluster} {target : ObjectRef} {gateway : Gateway}

/-- The cluster after a deed. -/
def done (config : Config) (w : Cluster) : Deed → Cluster
  | .reconciled key => ((reconcile config key).run w).cluster
  | .deleted key version => w.edit (.routes (.request (.delete key version)))

/-- The cluster after deeds, one after the other. -/
def doneAll (config : Config) (w : Cluster) (deeds : List Deed) : Cluster :=
  deeds.foldl (done config) w

/-- Every route is stored under its own namespace and name. -/
def Filed (w : Cluster) : Prop :=
  ∀ key route, w.routes.get key = some route → route.ref = key

/-- The gateway rejects every route that attaches to it. -/
def Rejected (w : Cluster) (config : Config) (target : ObjectRef) (gateway : Gateway) : Prop :=
  ∀ key route, w.routes.get key = some route → route.parent? = some target →
    gateway.check (route.settings.effective config) ≠ .ok ()

/-- The gateway stands as it is and rejects all of its routes. -/
structure Standoff (config : Config) (target : ObjectRef) (gateway : Gateway) (w : Cluster) :
    Prop where
  faultsOnly : w.FaultsOnly
  filed : w.Filed
  there : w.gateways.get target = some gateway
  rejected : w.Rejected config target gateway

/-- A standoff lasts while the gateway stands with the same records and the routes that
are stored keep their names, parents and settings. -/
theorem Standoff.lasts (h : Standoff config target gateway w) {after : Cluster}
    {gateway' : Gateway} (faultsOnly : after.FaultsOnly)
    (there : after.gateways.get target = some gateway')
    (records : ∀ settings, gateway'.check settings = gateway.check settings)
    (routes : ∀ key route', after.routes.get key = some route' →
      ∃ route, w.routes.get key = some route ∧ route'.ref = route.ref
        ∧ route'.parent? = route.parent?
        ∧ route'.settings.effective config = route.settings.effective config) :
    Standoff config target gateway' after where
  faultsOnly := faultsOnly
  filed key route' found' := by
    obtain ⟨route, found, ref, -⟩ := routes key route' found'
    exact ref.trans (h.filed key route found)
  there := there
  rejected key route' found' attached := by
    obtain ⟨route, found, -, parent, effective⟩ := routes key route' found'
    rw [effective, records]
    exact h.rejected key route found (parent.symm.trans attached)

/-- A deletion touches no gateway, and what it leaves of a route has the name,
the parent and the settings that it had. -/
theorem Standoff.deleted (h : Standoff config target gateway w) (key : ObjectRef)
    (version : Option String) :
    Standoff config target gateway (w.done config (.deleted key version)) := by
  refine h.lasts h.faultsOnly h.there (fun _ => rfl) fun other route' found' => ?_
  have found' : (w.routes.delete key version).2.get other = some route' := found'
  obtain ⟨-, same⟩ | ⟨route, found, -, others, left⟩ := w.routes.delete_cases key version
  · rw [same] at found'
    exact ⟨route', found', rfl, rfl, rfl⟩
  · by_cases same : other = key
    · subst same
      obtain ⟨-, gone⟩ | ⟨-, time, newVersion, marked⟩ := left
      · cases gone.symm.trans found'
      · cases marked.symm.trans found'
        exact ⟨route, found, rfl, rfl, rfl⟩
    · rw [others other same] at found'
      exact ⟨route', found', rfl, rfl, rfl⟩

/-- An event leaves the gateway alone, or is the event of a route that leaves
it; for ensuring it would take a route that it does not reject. -/
theorem Standoff.reconciled (h : Standoff config target gateway w) (key : ObjectRef) :
    let after := w.done config (.reconciled key)
    (∀ other route', after.routes.get other = some route' →
      ∃ route, w.routes.get other = some route ∧ route.Continues route')
    ∧ (after.gateways.get target = some gateway
      ∨ ∃ route, w.routes.get key = some route ∧ route.leaves target
        ∧ w.Amends after target) := by
  obtain same | ⟨route, found, effect⟩ :=
    run_of_faultsOnly h.faultsOnly (ends_reconcile config w.unplanned key (h.filed key))
  · refine ⟨fun other route found => ⟨route, ?_, .refl route⟩, .inl ?_⟩
    · exact (congrArg (fun after => after.routes.get other) same).symm.trans found
    · exact (congrArg (fun after => after.gateways.get target) same).trans h.there
  · refine ⟨fun other route' found' => ?_, ?_⟩
    · obtain ⟨others, continues⟩ := effect.keepsRoutes found
      by_cases same : other = key
      · subst same
        exact continues route' found'
      · exact ⟨route', (others other same).symm.trans found', .refl route'⟩
    · by_cases unchanged :
        (w.done config (.reconciled key)).gateways.get target = w.gateways.get target
      · exact .inl (unchanged.trans h.there)
      · obtain ⟨leaves, stale, inLine, records⟩ | ⟨attached, agrees⟩ :=
          effect.change found unchanged
        · exact .inr ⟨route, found, leaves, stale, inLine, records⟩
        -- an attached route would have passed the check that it fails
        · exact absurd (agrees gateway h.there) (h.rejected key route found attached)

/-- The deed is an event of a route that leaves the gateway; it finds the gateway stale
and leaves it in line with the routes. -/
def ChangesByLeaving (config : Config) (w : Cluster) (target : ObjectRef) (deed : Deed) : Prop :=
  ∃ key route, deed = .reconciled key ∧ w.routes.get key = some route ∧ route.leaves target
    ∧ w.Stale target ∧ (w.done config deed).InLine target

/-- In a standoff no other deed changes the gateway. -/
theorem Standoff.change (h : Standoff config target gateway w) (deed : Deed)
    (changed : (w.done config deed).gateways.get target ≠ some gateway) :
    w.ChangesByLeaving config target deed := by
  cases deed with
  | deleted key version => exact absurd (h.deleted key version).there changed
  | reconciled key =>
    obtain ⟨-, same | ⟨route, found, leaves, amends⟩⟩ := h.reconciled key
    · exact absurd same changed
    · exact ⟨key, route, rfl, found, leaves, amends.stale, amends.inLine⟩

/-- A deed that leaves anything of the gateway leaves its records, so the standoff goes
on with what is left. -/
theorem Standoff.done (h : Standoff config target gateway w) (deed : Deed) {gateway' : Gateway}
    (there : (w.done config deed).gateways.get target = some gateway') :
    Standoff config target gateway' (w.done config deed) := by
  cases deed with
  | deleted key version =>
    have lasts := h.deleted key version
    cases lasts.there.symm.trans there
    exact lasts
  | reconciled key =>
    obtain ⟨routes, gateway⟩ := h.reconciled key
    have faultsOnly := faultsOnly_run (s := reconcile config key) h.faultsOnly
    refine h.lasts faultsOnly there ?_ fun other route' found' => ?_
    · obtain same | ⟨-, -, -, amends⟩ := gateway
      · cases same.symm.trans there
        exact fun _ => rfl
      · exact amends.records _ gateway' h.there there
    · obtain ⟨route, found, continues⟩ := routes other route' found'
      exact ⟨route, found, continues.ref, continues.parent, continues.effective config⟩

theorem doneAll_concat (deeds : List Deed) (deed : Deed) :
    w.doneAll config (deeds ++ [deed]) = (w.doneAll config deeds).done config deed :=
  List.foldl_concat _ _ _ _

/-- The gateway is there at the start and after each of the deeds. -/
def Stands (config : Config) (w : Cluster) (deeds : List Deed) (target : ObjectRef) : Prop :=
  ∀ earlier, earlier <+: deeds → (w.doneAll config earlier).gateways.get target ≠ none

/-- A standoff lasts through all deeds through which the gateway stands. -/
theorem Standoff.doneAll (h : Standoff config target gateway w) {deeds : List Deed}
    (stands : w.Stands config deeds target) {gateway' : Gateway}
    (there : (w.doneAll config deeds).gateways.get target = some gateway') :
    Standoff config target gateway' (w.doneAll config deeds) := by
  induction deeds using List.reverseRecOn generalizing gateway' with
  | nil =>
    cases h.there.symm.trans there
    exact h
  | append_singleton deeds deed ih =>
    obtain ⟨before, stood⟩ := Option.ne_none_iff_exists'.1 (stands deeds (List.prefix_append _ _))
    have standoff := ih (fun earlier part => stands earlier (part.trans (List.prefix_append _ _)))
      stood
    rw [doneAll_concat] at there ⊢
    exact standoff.done deed there

/-- As long as the gateway stands, it rejects every route that attaches to it, and each
deed that changes it is an event of a route that leaves it. -/
def ChangedByLeavingOnly (config : Config) (w : Cluster) (deeds : List Deed)
    (target : ObjectRef) : Prop :=
  ∀ earlier deed later, deeds = earlier ++ deed :: later → w.Stands config earlier target →
    ∀ gateway, (w.doneAll config earlier).gateways.get target = some gateway →
      (w.doneAll config earlier).Rejected config target gateway
        ∧ ((w.doneAll config (earlier ++ [deed])).gateways.get target ≠ some gateway →
          (w.doneAll config earlier).ChangesByLeaving config target deed)

/-- In a standoff each change is of the one kind. -/
theorem Standoff.changedByLeavingOnly (h : Standoff config target gateway w) (deeds : List Deed) :
    w.ChangedByLeavingOnly config deeds target := by
  intro earlier deed later _ stands gateway' there
  have standoff := h.doneAll stands there
  rw [doneAll_concat]
  exact ⟨standoff.rejected, standoff.change deed⟩

/-- The first deed that changes the gateway is an event of a route that leaves
it, finds it stale and leaves it in line with the routes. -/
def FirstChangedByLeaving (config : Config) (w : Cluster) (deeds : List Deed)
    (target : ObjectRef) (gateway : Gateway) : Prop :=
  ∃ earlier key later route, deeds = earlier ++ .reconciled key :: later
    ∧ (w.doneAll config earlier).gateways.get target = some gateway
    ∧ (w.doneAll config earlier).routes.get key = some route
    ∧ route.leaves target
    ∧ (w.doneAll config earlier).Stale target
    ∧ (w.doneAll config (earlier ++ [.reconciled key])).InLine target
    ∧ (w.doneAll config (earlier ++ [.reconciled key])).gateways.get target ≠ some gateway

/-- Deeds leave the gateway as it is, or one of them is the first to change it. -/
theorem first_change (config : Config) (there : w.gateways.get target = some gateway)
    (deeds : List Deed) :
    (∀ before, before <+: deeds → (w.doneAll config before).gateways.get target = some gateway)
      ∨ ∃ earlier deed later, deeds = earlier ++ deed :: later
        ∧ (∀ before, before <+: earlier →
          (w.doneAll config before).gateways.get target = some gateway)
        ∧ (w.doneAll config (earlier ++ [deed])).gateways.get target ≠ some gateway := by
  -- from the end: a longer trail has the first change of the shorter one
  induction deeds using List.reverseRecOn with
  | nil =>
    refine .inl fun before part => ?_
    rw [List.prefix_nil.1 part]
    exact there
  | append_singleton deeds deed ih =>
    obtain same | ⟨earlier, first, later, split, stood, changed⟩ := ih
    · by_cases kept : (w.doneAll config (deeds ++ [deed])).gateways.get target = some gateway
      · refine .inl fun before part => ?_
        obtain rfl | part := List.prefix_concat_iff.1 part
        · exact kept
        · exact same before part
      · exact .inr ⟨deeds, deed, [], rfl, same, kept⟩
    · refine .inr ⟨earlier, first, later ++ [deed], ?_, stood, changed⟩
      rw [split, List.append_assoc]
      rfl

/-- If each change is of this kind, the first one is, if there is any. -/
theorem ChangedByLeavingOnly.first {deeds : List Deed}
    (only : w.ChangedByLeavingOnly config deeds target)
    (there : w.gateways.get target = some gateway) :
    (w.doneAll config deeds).gateways.get target = some gateway
      ∨ w.FirstChangedByLeaving config deeds target gateway := by
  refine (first_change config there deeds).imp (fun same => same _ List.prefix_rfl) ?_
  intro first
  obtain ⟨earlier, deed, later, split, stood, changed⟩ := first
  have stands : w.Stands config earlier target := fun before part => by simp [stood before part]
  obtain ⟨key, route, rfl, found, leaves, stale, inLine⟩ :=
    (only earlier deed later split stands gateway (stood _ List.prefix_rfl)).2 changed
  refine ⟨earlier, key, later, route, split, stood _ List.prefix_rfl, found, leaves, stale, ?_,
    changed⟩
  rw [doneAll_concat]
  exact inLine

end Cluster

open Cluster (Standoff)

/-- A gateway that rejects every route that attaches to it is left as it is by
events and deletions of routes, unless a route leaves it: then the first change
is that route's event, which holds the gateway against nobody's settings. So it is
with every later change as long as the gateway stands, for it goes on rejecting
every route that attaches to it. -/
theorem rejecting_gateway_changes_by_leaving_only (config : Config) {w : Cluster}
    (faultsOnly : w.FaultsOnly) (filed : w.Filed) {target : ObjectRef} {gateway : Gateway}
    (there : w.gateways.get target = some gateway)
    (rejected : w.Rejected config target gateway) (deeds : List Deed) :
    ((w.doneAll config deeds).gateways.get target = some gateway
      ∨ w.FirstChangedByLeaving config deeds target gateway)
    ∧ w.ChangedByLeavingOnly config deeds target := by
  have standoff : Standoff config target gateway w := ⟨faultsOnly, filed, there, rejected⟩
  have only := standoff.changedByLeavingOnly deeds
  exact ⟨only.first there, only⟩

/-- Does the route mention the gateway, as its parent or in its bookkeeping? -/
def Object.mentions (route : Route) (target : ObjectRef) : Prop :=
  route.parent? = some target ∨ route.settings.previous? = some target

/-- A gateway and a route that it rejects. -/
def rejection : Cluster where
  routes := { objects := .ofList [
    (⟨"apps", "first"⟩,
      Route.optedIn ⟨"apps", "first"⟩ ⟨"infra", "edge"⟩ "a.example.com" [] [])] }
  gateways := { objects := .ofList [(⟨"infra", "edge"⟩, rejecting)] }
where
  /-- The gateway records another issuer than the route asks for. -/
  rejecting : Gateway :=
    Gateway.recording ⟨"infra", "edge"⟩ ⟨"letsencrypt", "hnet-private"⟩ "eg"
      [.https "b.example.com" "infra"]

/-- There is one route. -/
theorem rejection_stored {key : ObjectRef} {route : Route}
    (found : rejection.routes.get key = some route) :
    key = ⟨"apps", "first"⟩
      ∧ route = Route.optedIn ⟨"apps", "first"⟩ ⟨"infra", "edge"⟩ "a.example.com" [] [] := by
  have stored : (key, route) ∈ [(⟨"apps", "first"⟩, _)] := Table.find?_eq_some_iff.1 found
  cases List.mem_singleton.1 stored
  exact ⟨rfl, rfl⟩

/-- The gateway rejects it. -/
theorem rejection_rejects {route : Route}
    (same : route = Route.optedIn ⟨"apps", "first"⟩ ⟨"infra", "edge"⟩ "a.example.com" [] []) :
    rejection.rejecting.check (route.settings.effective .standard) ≠ .ok () := by
  subst same
  intro agrees
  cases agrees

/-- A route is served, deleted, and let go. -/
def lifetime (key : ObjectRef) : List Deed :=
  [.reconciled key, .deleted key none, .reconciled key]

theorem key_of_mem_lifetime {key : ObjectRef} {deed : Deed} (h : deed ∈ lifetime key) :
    deed.key = key := by
  simp only [lifetime, List.mem_cons, List.not_mem_nil, or_false] at h
  obtain rfl | rfl | rfl := h <;> rfl

theorem rejection_filed : rejection.Filed := by
  intro key route found
  obtain ⟨rfl, rfl⟩ := rejection_stored found
  rfl

set_option maxRecDepth 10000 in
/-- The gateway of a rejected route goes with the route, whose last event is the one deed
of its lifetime that changes the gateway. -/
theorem rejected_route_is_held_off :
    rejection.FirstChangedByLeaving .standard (lifetime ⟨"apps", "first"⟩) ⟨"infra", "edge"⟩
        rejection.rejecting
      ∧ rejection.ChangedByLeavingOnly .standard (lifetime ⟨"apps", "first"⟩)
        ⟨"infra", "edge"⟩ := by
  obtain ⟨changed, only⟩ := @rejecting_gateway_changes_by_leaving_only .standard rejection
    (Cluster.Unplanned.faultsOnly fun _ => rfl) rejection_filed ⟨"infra", "edge"⟩
    rejection.rejecting rfl
    (fun key route found _ => rejection_rejects (rejection_stored found).2)
    (lifetime ⟨"apps", "first"⟩)
  have gone : (rejection.doneAll .standard (lifetime ⟨"apps", "first"⟩)).gateways.get
      ⟨"infra", "edge"⟩ = none := by rfl
  exact ⟨changed.resolve_left fun kept => (nomatch gone.symm.trans kept), only⟩

set_option maxRecDepth 10000 in
/-- In its lifetime a rejected route takes its gateway with it. -/
theorem rejected_route_removes_gateway :
    ¬ ∀ (config : Config) (w : Cluster) (target : ObjectRef) (gateway : Gateway)
      (deeds : List Deed), w.Unplanned → w.Filed →
      (∀ deed ∈ deeds, ∃ route, w.routes.get deed.key = some route) →
      w.gateways.get target = some gateway →
      (∀ key route, w.routes.get key = some route → route.mentions target →
        gateway.check (route.settings.effective config) ≠ .ok ()) →
      (w.doneAll config deeds).gateways.get target = some gateway := by
  intro claim
  have kept := claim .standard rejection ⟨"infra", "edge"⟩ rejection.rejecting
    (lifetime ⟨"apps", "first"⟩) (fun _ => rfl) rejection_filed
    (fun deed member => ⟨_, by rw [key_of_mem_lifetime member]; rfl⟩) rfl
    fun key route found _ => rejection_rejects (rejection_stored found).2
  have gone : (rejection.doneAll .standard (lifetime ⟨"apps", "first"⟩)).gateways.get
      ⟨"infra", "edge"⟩ = none := by rfl
  cases gone.symm.trans kept

end SharedGateway
