/-
Events that nothing disturbs, and what they tend to.

# Concern

A route that takes part still has to see to the gateway that it attaches to and to
the one that its bookkeeping names, until it has been let go (`Object.Concerns`). An
event must not forget either. That it does not is shown in terms of concern: after
the event a gateway is in order, or it concerns a route still, and the event was not
handled to the end and comes again (`Attends`).

# Repairs

In a calm cluster syncs succeed, so each phase of an event repairs its gateways and
harms no other (`Repairs`): nothing that was in line comes out of line, nothing goes
missing that is wanted, and every gateway stays one that the operator made. Writes to
the route repair nothing and break nothing, for they change nothing about what the
routes want (`KeepsRoutes.repairs`). Repairs compose, so the phases of an event are
one repair of all gateways that it tends to.

# The event

An event tends to every gateway that concerns its route: the ones that the route
leaves and the one that it attaches to (`ends_reconcile_calm`). These are all, since
a gateway in the bookkeeping of a live route is left or is the present one; it is
here that the present gateway must be plain, for else its text in the bookkeeping
would be taken for another (`Reconcile.leaves_of_previous`).
-/
import SharedGateway.Proofs.CalmSync
import SharedGateway.Proofs.Event

namespace SharedGateway

open Cluster (performs mayFail Refinalizes Records KeepsRoutes Tends Made)
open Script

-- ============================================================ concerned

/-- The route has a parent, and its bookkeeping can name it. -/
def Object.AttachesPlainly (route : Route) : Prop :=
  ∃ parent, route.parent? = some parent ∧ parent.Plain

/-- A route that may still have to see to the gateway: it attaches to it, or its
bookkeeping names it, and it has not been let go. -/
def Object.Concerns (route : Route) (target : ObjectRef) : Prop :=
  (route.isDeleting = false ∨ route.isManaged = true)
    ∧ (route.parent? = some target ∨ route.settings.previous? = some target)

/-- A route that serves a hostname is live and attaches to its gateway. -/
theorem Object.live_of_serves {route : Route} {target : ObjectRef} {hostname : String}
    (serves : route.serves target hostname) :
    route.isDeleting = false ∧ route.parent? = some target := by
  obtain ⟨attached, -⟩ := serves
  simp only [Object.attachesTo, Object.takesPart, Bool.and_eq_true, Bool.not_eq_true',
    decide_eq_true_eq] at attached
  exact ⟨attached.1.1, attached.2⟩

theorem Object.concerns_of_serves {route : Route} {target : ObjectRef} {hostname : String}
    (serves : route.serves target hostname) : route.Concerns target :=
  ⟨.inl (live_of_serves serves).1, .inl (live_of_serves serves).2⟩

/-- A route whose bookkeeping names a gateway leaves it, or attaches to it. -/
theorem Reconcile.leaves_of_previous {route : Route} {current target : ObjectRef}
    (plain : current.Plain) (previous : route.settings.previous? = some target) :
    target ∈ (leftGateway? route current).toList ∨ target = current := by
  unfold leftGateway?
  split
  · rename_i named
    rw [RouteSettings.previous?, named, Option.bind_some,
      ObjectRef.ofText?_toText plain] at previous
    exact .inr (Option.some.inj previous).symm
  · exact .inl (Option.mem_toList.2 previous)

/-- A stored route of the kind that takes part: its gateway is plain, and it asks
for the settings that all ask for. -/
structure Sound (config : Config) (settings : GatewaySettings) (key : ObjectRef)
    (route : Route) : Prop where
  ref : route.ref = key
  enabled : route.settings.enabled = true
  attaches : route.AttachesPlainly
  agrees : route.settings.effective config = settings

/-- A route of this kind stays so as it goes on. -/
theorem Sound.continues {config : Config} {settings : GatewaySettings} {key : ObjectRef}
    {route route' : Route} (h : Sound config settings key route)
    (continues : route.Continues route') : Sound config settings key route' where
  ref := continues.ref.trans h.ref
  enabled := continues.enabled.trans h.enabled
  attaches := by
    rw [Object.AttachesPlainly, continues.parent]
    exact h.attaches
  agrees := (continues.effective config).trans h.agrees

-- ============================================================== repairs

namespace Cluster

variable {config : Config} {settings : GatewaySettings} {w mid after : Cluster}
  {key target : ObjectRef} {targets later : List ObjectRef}

/-- No gateway has come out of line or gone missing for want of care, and the
listed ones are in line if they are there. -/
structure Repairs (config : Config) (settings : GatewaySettings) (w after : Cluster)
    (targets : List ObjectRef) : Prop where
  calm : after.Calm
  wanted : ∀ target, after.wanted target = w.wanted target
  made : ∀ target, after.Made config settings target
  missing : ∀ target, after.gateways.get target = none →
    w.gateways.get target = none ∨ w.wanted target = []
  stale : ∀ target, after.Stale target → w.Stale target ∧ target ∉ targets

theorem Repairs.refl (calm : w.Calm) (made : ∀ target, w.Made config settings target) :
    Repairs config settings w w [] :=
  ⟨calm, fun _ => rfl, made, fun _ missing => .inl missing,
    fun _ stale => ⟨stale, List.not_mem_nil⟩⟩

/-- Repairs one after the other are one. -/
theorem Repairs.trans (first : Repairs config settings w mid targets)
    (second : Repairs config settings mid after later) :
    Repairs config settings w after (targets ++ later) where
  calm := second.calm
  wanted target := (second.wanted target).trans (first.wanted target)
  made := second.made
  missing target missing := by
    obtain missing | unwanted := second.missing target missing
    · exact first.missing target missing
    · exact .inr ((first.wanted target).symm.trans unwanted)
  stale target stale := by
    obtain ⟨stale, untended⟩ := second.stale target stale
    obtain ⟨stale, untended'⟩ := first.stale target stale
    exact ⟨stale, by simp [untended, untended']⟩

/-- A sync that succeeds is a repair of its gateway. -/
theorem Tends.repairs (tends : Tends config settings w after target) (calm : after.Calm)
    (made : ∀ target, w.Made config settings target)
    (missing : after.gateways.get target = none →
      w.gateways.get target = none ∨ w.wanted target = []) :
    Repairs config settings w after [target] where
  calm := calm
  wanted := tends.wanted
  made other := by
    by_cases same : other = target
    · exact same ▸ tends.made
    · exact (made_congr (tends.gateways other same)).2 (made other)
  missing other gone := by
    by_cases same : other = target
    · subst same
      exact missing gone
    · exact .inl ((tends.gateways other same).symm.trans gone)
  stale other stale := by
    have differ : other ≠ target := by
      intro same
      subst same
      exact tends.fresh stale
    refine ⟨(stale_congr (tends.gateways other differ) (tends.wanted other)).1 stale, ?_⟩
    exact fun tended => differ (List.mem_singleton.1 tended)

/-- What the routes want is as it was if the written route goes on, or if it is
gone but was deleting. -/
theorem KeepsRoutes.wanted_eq (h : KeepsRoutes w after key)
    (kept : ∀ route, w.routes.get key = some route → route.isDeleting = false →
      ∃ route', after.routes.get key = some route') (target : ObjectRef) :
    after.wanted target = w.wanted target := by
  refine wanted_of_others h.others fun hostname => ⟨fun contributed => ?_, fun contributed => ?_⟩
  · obtain ⟨route, found, serves⟩ := contributed
    obtain ⟨route', found'⟩ := kept route found (Object.live_of_serves serves).1
    obtain ⟨known, found'', continues⟩ := h.route route' found'
    cases found.symm.trans found''
    exact ⟨route', found', (continues.serves target hostname).2 serves⟩
  · obtain ⟨route', found', serves⟩ := contributed
    obtain ⟨route, found, continues⟩ := h.route route' found'
    exact ⟨route, found, (continues.serves target hostname).1 serves⟩

/-- A write to a route repairs nothing and breaks nothing. -/
theorem KeepsRoutes.repairs (h : KeepsRoutes w after key) (calm : after.Calm)
    (gateways : after.gateways = w.gateways)
    (kept : ∀ route, w.routes.get key = some route → route.isDeleting = false →
      ∃ route', after.routes.get key = some route')
    (made : ∀ target, w.Made config settings target) :
    Repairs config settings w after [] where
  calm := calm
  wanted := h.wanted_eq kept
  made target := (made_congr (congrArg (Store.get · target) gateways)).2 (made target)
  missing target gone := .inl (gateways ▸ gone)
  stale target stale := by
    have gateway := congrArg (Store.get · target) gateways
    exact ⟨(stale_congr gateway (h.wanted_eq kept target)).1 stale, List.not_mem_nil⟩

end Cluster

open Cluster (Repairs)

-- =============================================================== phases

variable {config : Config} {settings : GatewaySettings} {w : Cluster} {key target : ObjectRef}
  {route : Route}

theorem ends_performs {ε α : Type} {s : Script ε α} {Q : Except ε α → Cluster → Prop}
    (ends : s.Ends mayFail w Q) : s.Ends performs w Q :=
  ends.of_answering fun _ _ _ _ => .inl

/-- A refresh repairs its gateway. -/
theorem ends_refresh_repairs (calm : w.Calm) (made : ∀ target, w.Made config settings target) :
    (Sync.refresh target).Ends performs w fun result after =>
      (∃ outcome, result = .ok outcome) ∧ after.routes = w.routes
        ∧ Repairs config settings w after [target] := by
  refine ((ends_refresh_made calm (made target)).and (ends_calm calm)).mono
    fun result after ⟨⟨ok, tends, missing⟩, calm⟩ => ?_
  exact ⟨ok, tends.routes, tends.repairs calm made missing⟩

/-- Refreshes in turn repair all their gateways. -/
theorem ends_refreshAll_repairs (targets : List ObjectRef) (calm : w.Calm)
    (made : ∀ target, w.Made config settings target) :
    (Reconcile.refreshAll targets).Ends performs w fun result after =>
      result = .ok () ∧ after.routes = w.routes
        ∧ Repairs config settings w after targets := by
  induction targets generalizing w with
  | nil => exact ⟨rfl, rfl, .refl calm made⟩
  | cons target rest ih =>
    rw [Reconcile.refreshAll_cons]
    refine (ends_refresh_repairs calm made).bind (fun outcome mid done => ?_)
      fun e mid done => ?_
    · obtain ⟨-, routes, first⟩ := done
      refine (ih first.calm first.made).mono fun result after done => ?_
      obtain ⟨ok, routes', second⟩ := done
      exact ⟨ok, routes'.trans routes, first.trans second⟩
    · obtain ⟨⟨outcome, ok⟩, -⟩ := done
      cases ok

/-- Leaving the former gateway repairs it. -/
theorem ends_leavePrevious_repairs (route : Route) (current : ObjectRef) (calm : w.Calm)
    (made : ∀ target, w.Made config settings target) :
    (Reconcile.leavePrevious route current).Ends performs w fun result after =>
      result = .ok () ∧ after.routes = w.routes
        ∧ Repairs config settings w after (Reconcile.leftGateway? route current).toList := by
  refine ends_leavePrevious_of (fun stays => ?_) fun previous leaves => ?_
  · rw [stays]
    exact ⟨rfl, rfl, .refl calm made⟩
  · rw [leaves]
    exact (ends_refresh_repairs calm made).mono
      fun result after ⟨_, routes, repairs⟩ => ⟨rfl, routes, repairs⟩

theorem Cluster.Refinalizes.repairs {after : Cluster} (h : Refinalizes w after key)
    (calm : w.Calm) (calm' : after.Calm) (made : ∀ target, w.Made config settings target) :
    Repairs config settings w after [] :=
  h.keepsRoutes.repairs calm' h.gateways (h.calm calm.routes).2 made

theorem Cluster.Records.repairs {after : Cluster} {current : ObjectRef}
    (h : Records w after key current route) (found : w.routes.get key = some route)
    (calm : after.Calm) (made : ∀ target, w.Made config settings target) :
    Repairs config settings w after [] := by
  refine (h.keepsRoutes found).repairs calm h.gateways (fun _ _ _ => ?_) made
  obtain ⟨route', found', -⟩ := h.route
  exact ⟨route', found'⟩

-- ================================================================ event

/-- Was the event handled to the end? One that only added the finalizer was not,
since its own write brings the route back. -/
def Settles (result : Except ReconcileError Outcome) : Prop :=
  ∃ outcome, result = .ok outcome ∧ outcome ≠ .finalizerAdded

theorem not_settles_error (e : ReconcileError) : ¬ Settles (.error e) := by
  intro settled
  obtain ⟨outcome, ok, -⟩ := settled
  cases ok

/-- An event that only added the finalizer comes again. -/
theorem not_settles_finalizerAdded : ¬ Settles (.ok .finalizerAdded) := by
  intro settled
  obtain ⟨outcome, ok, differ⟩ := settled
  cases ok
  exact differ rfl

/-- What an event does in a calm cluster when it has tended to some gateways
already. Nothing comes out of line. What is stale afterwards and concerns the
route goes on concerning it, and the event was not handled to the end; one that
was has made the gateway that the route wants. -/
structure Attends (config : Config) (settings : GatewaySettings) (key : ObjectRef)
    (tended : List ObjectRef) (w after : Cluster) (result : Except ReconcileError Outcome) :
    Prop where
  routes : KeepsRoutes w after key
  repairs : ∃ targets, Repairs config settings w after targets
  concerned : ∀ route, w.routes.get key = some route → ∀ target, route.Concerns target →
    target ∉ tended → after.Stale target → ¬ Settles result
      ∧ ∃ route', after.routes.get key = some route' ∧ route'.Concerns target
  served : Settles result → ∀ route, w.routes.get key = some route → ∀ target hostname,
    route.serves target hostname → after.gateways.get target ≠ none

namespace Attends

variable {mid after : Cluster} {tended : List ObjectRef}
  {result : Except ReconcileError Outcome}

/-- An event that finds nothing to do is right to do nothing. -/
theorem nothing (calm : w.Calm) (made : ∀ target, w.Made config settings target)
    (idle : ∀ route, w.routes.get key = some route →
      route.isDeleting = true ∧ route.isManaged = false) :
    Attends config settings key [] w w result where
  routes := .refl w key
  repairs := ⟨[], .refl calm made⟩
  concerned route found target concerns _ _ := by
    obtain ⟨deleting, unmanaged⟩ := idle route found
    simp [Object.Concerns, deleting, unmanaged] at concerns
  served _ route found target hostname serves :=
    absurd serves (Cluster.not_serves_of_deleting (idle route found).1 hostname)

/-- The gateways that an event tends to first need no attention later. -/
theorem after_repairs (first : Repairs config settings w mid tended)
    (same : mid.routes = w.routes) (rest : Attends config settings key tended mid after result) :
    Attends config settings key [] w after result where
  routes := ⟨fun other differ => by rw [rest.routes.others other differ, same],
    fun route' found' => same ▸ rest.routes.route route' found'⟩
  repairs := rest.repairs.imp' (tended ++ ·) fun _ second => first.trans second
  concerned route found target concerns _ stale := by
    obtain ⟨targets, second⟩ := rest.repairs
    have untended := (first.stale target (second.stale target stale).1).2
    exact rest.concerned route (same ▸ found) target concerns untended stale
  served settled route found := rest.served settled route (same ▸ found)

end Attends

/-- A deleting route tends to every gateway that it is concerned with before it
is let go. -/
theorem ends_finalize_calm (calm : w.Calm) (made : ∀ target, w.Made config settings target)
    (found : w.routes.get key = some route) (deleting : route.isDeleting = true) :
    (Reconcile.finalize config key route).Ends performs w fun result after =>
      Attends config settings key [] w after result := by
  rw [Reconcile.finalize_eq, ends_bind, ends_mapError]
  refine (ends_refreshAll_repairs _ calm made).mono fun result mid ⟨ok, same, left⟩ => ?_
  subst ok
  have found : mid.routes.get key = some route := by rw [same, found]
  have attends : ∀ after result, Refinalizes mid after key → after.Calm →
      Attends config settings key (Reconcile.formerGateways route) mid after result := by
    intro after result written calm'
    refine ⟨written.keepsRoutes, ⟨[], written.repairs left.calm calm' left.made⟩,
      fun known found' target concerns untended => ?_, fun _ known found' target hostname => ?_⟩
    · cases found.symm.trans found'
      exact absurd (Reconcile.mem_formerGateways.2 concerns.2) untended
    · cases found.symm.trans found'
      exact fun serves => absurd serves (Cluster.not_serves_of_deleting deleting hostname)
  refine ((ends_performs (ends_removeFinalizer config mid key)).and (ends_calm left.calm)).bind
    (fun _ after ⟨written, calm'⟩ => ?_) fun e after ⟨written, calm'⟩ => ?_
  · exact .after_repairs left same (attends after _ written calm')
  · exact .after_repairs left same (attends after _ written calm')

section Serve

variable {current : ObjectRef}

/-- A route that was held for now goes on being concerned. -/
theorem attends_held {after : Cluster} {result : Except ReconcileError Outcome}
    (calm : w.Calm) (made : ∀ target, w.Made config settings target)
    (found : w.routes.get key = some route) (live : route.isDeleting = false)
    (written : Refinalizes w after key) (calm' : after.Calm) (unsettled : ¬ Settles result)
    (tended : List ObjectRef) : Attends config settings key tended w after result := by
  refine ⟨written.keepsRoutes, ⟨[], written.repairs calm calm' made⟩,
    fun known found' target concerns _ _ => ⟨unsettled, ?_⟩,
    fun settled => absurd settled unsettled⟩
  cases found.symm.trans found'
  obtain ⟨route', there⟩ := (written.calm calm.routes).2 route found live
  obtain ⟨known, found', continues, same⟩ := written.route route' there
  cases found.symm.trans found'
  refine ⟨route', there, .inl (continues.isDeleting.trans live), ?_⟩
  rw [continues.parent, same]
  exact concerns.2

/-- A gateway that concerns a route and was not left by it is the one that it
attaches to. -/
theorem Object.Concerns.eq_of_untended {target : ObjectRef} (concerns : route.Concerns target)
    (parent : route.parent? = some current) (plain : current.Plain)
    (untended : target ∉ (Reconcile.leftGateway? route current).toList) : target = current := by
  obtain attached | previous := concerns.2
  · exact Option.some.inj (attached.symm.trans parent)
  · exact (Reconcile.leaves_of_previous plain previous).resolve_left untended

/-- A route whose gateway was recorded and ensured has been tended to in full. -/
theorem attends_ensured {recorded after : Cluster} {outcome : Outcome}
    (found : w.routes.get key = some route) (parent : route.parent? = some current)
    (plain : current.Plain) (written : Records w recorded key current route)
    (first : Repairs config settings w recorded [])
    (tends : Tends config settings recorded after current) (calm : after.Calm)
    (gone : after.gateways.get current = none → recorded.wanted current = []) :
    Attends config settings key (Reconcile.leftGateway? route current).toList w after
      (.ok outcome) := by
  have second := tends.repairs calm first.made fun missing => .inr (gone missing)
  refine ⟨?_, ⟨_, first.trans second⟩, fun known found' target concerns untended stale => ?_,
    fun _ known found' target hostname serves missing => ?_⟩
  · exact ⟨fun other differ => by rw [tends.routes, written.others other differ],
      fun route' found' => (written.keepsRoutes found).route route' (tends.routes ▸ found')⟩
  · cases found.symm.trans found'
    obtain rfl := concerns.eq_of_untended parent plain untended
    exact absurd stale tends.fresh
  · cases found.symm.trans found'
    cases (Object.live_of_serves serves).2.symm.trans parent
    have unwanted : w.wanted current = [] := (first.wanted current).symm.trans (gone missing)
    exact Cluster.wanted_eq_nil_iff.1 unwanted key route found hostname serves

/-- A route whose gateway could not be recorded goes on being concerned. -/
theorem attends_unrecorded {after : Cluster} (e : ReconcileError)
    (made : ∀ target, w.Made config settings target)
    (found : w.routes.get key = some route) (live : route.isDeleting = false)
    (parent : route.parent? = some current) (plain : current.Plain)
    (written : Records w after key current route) (calm : after.Calm) :
    Attends config settings key (Reconcile.leftGateway? route current).toList w after
      (.error e) := by
  refine ⟨written.keepsRoutes found, ⟨[], written.repairs found calm made⟩,
    fun known found' target concerns untended _ => ⟨not_settles_error e, ?_⟩,
    fun settled => absurd settled (not_settles_error e)⟩
  cases found.symm.trans found'
  obtain rfl := concerns.eq_of_untended parent plain untended
  obtain ⟨route', there, continues, -⟩ := written.route
  exact ⟨route', there, .inl (continues.isDeleting.trans live),
    .inl (continues.parent.trans parent)⟩

/-- A live route is held, or it is recorded and its gateway ensured. -/
theorem ends_serve_calm (calm : w.Calm) (made : ∀ target, w.Made config settings target)
    (found : w.routes.get key = some route) (sound : Sound config settings key route)
    (live : route.isDeleting = false) (parent : route.parent? = some current)
    (plain : current.Plain) :
    (Reconcile.serve config key route current).Ends performs w fun result after =>
      Attends config settings key (Reconcile.leftGateway? route current).toList w after
        result := by
  refine Reconcile.serve_elim config key route current (fun _ => ?_) fun _ => ?_
  · refine ((ends_performs (ends_addFinalizer config w key)).and (ends_calm calm)).bind
      (fun _ after ⟨written, calm'⟩ => ?_) fun e after ⟨written, calm'⟩ => ?_
    · exact attends_held calm made found live written calm' not_settles_finalizerAdded _
    · exact attends_held calm made found live written calm' (not_settles_error e) _
  · refine ((ends_performs (ends_record config found sound.ref live)).and (ends_calm calm)).bind
      (fun _ recorded ⟨⟨written, _⟩, calm'⟩ => ?_) fun e recorded ⟨⟨written, _⟩, calm'⟩ => ?_
    · have first := written.repairs found calm' made
      rw [ends_bind, ends_mapError, sound.agrees]
      refine ((ends_ensure_made first.calm (first.made current)).and (ends_calm first.calm)).mono
        fun result after ⟨⟨⟨outcome, ok⟩, tends, gone⟩, calm''⟩ => ?_
      subst ok
      exact attends_ensured found parent plain written first tends calm'' gone
    · exact attends_unrecorded e made found live parent plain written calm'

end Serve

/-- An event in a calm cluster tends to every gateway that its route is concerned
with, or leaves the route concerned. -/
theorem ends_reconcile_calm (calm : w.Calm) (made : ∀ target, w.Made config settings target)
    (sound : ∀ route, w.routes.get key = some route → Sound config settings key route) :
    (reconcile config key).Ends performs w fun result after =>
      Attends config settings key [] w after result := by
  refine ends_reconcile_of_handle (fun missing => ?_) (fun route found => ?_) nofun
  · exact .nothing calm made fun route there => nomatch missing.symm.trans there
  · have sound := sound route found
    refine Reconcile.handle_elim config key route (fun deleting _ => ?finalizing)
      (fun _ disabled => nomatch sound.enabled.symm.trans disabled)
      (fun deleting unmanaged _ => ?released) (fun _ _ detached => ?unattached)
      fun current live _ parent => ?attached
    case finalizing => exact ends_finalize_calm calm made found deleting
    case released =>
      refine .nothing calm made fun known found' => ?_
      cases found.symm.trans found'
      exact ⟨deleting, unmanaged⟩
    case unattached =>
      -- a sound route attaches to a gateway
      obtain ⟨current, parent, -⟩ := sound.attaches
      cases detached.symm.trans parent
    case attached =>
      have plain : current.Plain := by
        obtain ⟨known, parent', plain⟩ := sound.attaches
        cases parent.symm.trans parent'
        exact plain
      -- the gateway that is left is tended to first, and needs no attention later
      rw [attach_eq]
      refine (ends_leavePrevious_repairs route current calm made).bind
        (fun _ mid ⟨_, same, left⟩ => ?_) fun e mid ⟨ok, _⟩ => nomatch ok
      have found' : mid.routes.get key = some route := by rw [same, found]
      exact (ends_serve_calm left.calm left.made found' sound live parent plain).mono
        fun result after => .after_repairs left same

end SharedGateway
