/-
What a sync makes of a gateway, exactly.

# A sync is a function of one gateway

In a calm cluster nothing but the gateway itself and what the routes want of it
decides how a sync ends, and it fails for one reason only: the gateway's records
disagree. So a sync is a function from a gateway, or none, to a gateway, or none
(`Sync.refreshed`, `Sync.ensured`), together with one that says how it is reported
(`Sync.ensureResult`). What it does to the cluster is that function at its target and
nothing elsewhere (`Cluster.Yields`, `ends_refresh_yields`, `ends_ensure_yields`). No
assumption is made about the gateway: it may be somebody else's, held by finalizers,
on its way out.

Events that are repeated or swapped are compared through these functions: an equation
between functions of one gateway is settled by cases on the gateway, with no calls,
no stores and no other gateway in sight.

# Versions

Every write makes a new version, so two ways to the same gateway differ in its
version. Versions are left out of account (`Store.view`), and nothing is lost by it:
neither the check of the records nor the choice of a write depends on them
(`Object.synced_unversioned`, `Object.check_unversioned`).

# Gateways on their way out

A gateway that is deleting while nothing holds it is gone with the next patch, wanted
or not. No sync leaves one behind (`Sync.ensured_held`), so where there was none to
begin with, a sync that does not report its gateway gone has left it in place
(`Sync.ensured_kept`).
-/
import SharedGateway.Proofs.CalmSync

namespace SharedGateway

open Cluster (performs)
open Script

-- ============================================================= versions

namespace Object

variable {σ : Type}

/-- The object without its version. -/
def unversioned (o : Object σ) : Object σ :=
  { o with metadata := { o.metadata with resourceVersion := none } }

end Object

namespace Store

variable {σ : Type}

/-- The object under the key but for its version. -/
def view (s : Store σ) (key : ObjectRef) : Option (Object σ) :=
  (s.get key).map Object.unversioned

/-- Keeping an object shows it under its key, and the others as they were. -/
theorem view_keep (s : Store σ) (key other : ObjectRef) (o : Object σ) :
    (s.keep key o).view other = if key = other then some o.unversioned else s.view other := by
  rw [view, get_keep, view]
  split <;> rfl

/-- The object, unless it is deleting and nothing holds it. -/
def kept (o : Object σ) : Option (Object σ) :=
  if o.metadata.isReleased then none else some o

/-- An object that is kept is kept as it is. -/
theorem kept_eq_some {o o' : Object σ} (h : kept o = some o') : o' = o := by
  unfold kept at h
  split at h
  · cases h
  · exact (Option.some.inj h).symm

/-- Replacing an object shows it under its key, unless it is released. -/
theorem view_replace (s : Store σ) (key other : ObjectRef) (o : Object σ) :
    (s.replace key o).view other
      = if key = other then (kept o).map Object.unversioned else s.view other := by
  rw [view, get_replace, view, kept]
  by_cases same : key = other
  · rw [if_pos same, if_pos same]
    split <;> rfl
  · rw [if_neg same, if_neg same]

/-- What a deletion leaves of an object. -/
def deleted (o : Object σ) : Option (Object σ) :=
  if o.finalizers.isEmpty then none
  else if o.isDeleting then some o
  else some (o.remarked (some deletionTime) o.resourceVersion)

/-- Deleting an object as it was read succeeds. -/
theorem delete_own [Spec σ] {s : Store σ} {key : ObjectRef} {o : Object σ}
    (found : s.get key = some o) :
    (s.delete key o.resourceVersion).1 = .ok () ∧ ∀ other,
      (s.delete key o.resourceVersion).2.view other
        = if key = other then (deleted o).map Object.unversioned else s.view other := by
  refine delete_elim s key o.resourceVersion (fun missing => ?missing)
    (fun o' found' stale => ?stale) (fun o' found' _ free => ?erased)
    (fun o' found' _ held deleting => ?kept) fun o' found' _ held unmarked => ?marked
  case missing => cases found.symm.trans missing
  all_goals cases found.symm.trans found'
  case stale => cases (hasVersion_own o).symm.trans stale
  case erased =>
    refine ⟨rfl, fun other => ?_⟩
    rw [view, get_of_erased rfl, view, deleted, if_pos (List.isEmpty_iff.2 free)]
    split <;> rfl
  case kept =>
    refine ⟨rfl, fun other => ?_⟩
    rw [deleted, if_neg (mt List.isEmpty_iff.1 held), if_pos deleting]
    by_cases same : key = other
    · rw [if_pos same, ← same, view, found]
    · rw [if_neg same]
  case marked =>
    refine ⟨rfl, fun other => ?_⟩
    rw [deleted, if_neg (mt List.isEmpty_iff.1 held), if_neg (Bool.eq_false_iff.1 unmarked)]
    exact s.view_keep key other _

end Store

-- ============================================================= function

/-- What a sync makes of a gateway of which those listeners are wanted. -/
def Object.synced (gateway : Gateway) (want : List Listener) : Option Gateway :=
  if want.isEmpty then Store.deleted gateway
  else if Sync.sameListeners gateway.spec.listeners want then some gateway
  else Store.kept (gateway.withListeners want)

/-- What that sync reports. -/
def Object.syncOutcome (gateway : Gateway) (want : List Listener) : SyncOutcome :=
  if want.isEmpty then .deleted
  else if Sync.sameListeners gateway.spec.listeners want then .unchanged
  else .patched

namespace Sync

/-- What a refresh makes of a gateway, or of none. -/
def refreshed (want : List Listener) : Option Gateway → Option Gateway
  | none => none
  | some gateway => gateway.synced want

/-- What ensuring makes of a gateway, or of none. -/
def ensured (config : Config) (target : ObjectRef) (settings : GatewaySettings)
    (want : List Listener) : Option Gateway → Option Gateway
  | none =>
    if want.isEmpty then none
    else some (Gateway.recording target settings config.gatewayClass want)
  | some gateway =>
    if gateway.check settings = .ok () then gateway.synced want else some gateway

/-- What ensuring reports. -/
def ensureResult (settings : GatewaySettings) (want : List Listener) :
    Option Gateway → Except SyncError SyncOutcome
  | none => .ok (if want.isEmpty then .absent else .created)
  | some gateway =>
    match gateway.check settings with
    | .error violation => .error (.policy violation)
    | .ok () => .ok (gateway.syncOutcome want)

end Sync

/-- A sync makes the same of a gateway in any version. -/
theorem Object.synced_unversioned (gateway : Gateway) (want : List Listener) :
    gateway.unversioned.synced want = (gateway.synced want).map Object.unversioned := by
  have deleted : Store.deleted gateway.unversioned
      = (Store.deleted gateway).map Object.unversioned := by
    unfold Store.deleted
    show (if gateway.finalizers.isEmpty then _ else if gateway.isDeleting then _ else _) = _
    split
    · rfl
    · split <;> rfl
  have kept : Store.kept (gateway.unversioned.withListeners want)
      = (Store.kept (gateway.withListeners want)).map Object.unversioned := by
    unfold Store.kept
    show (if gateway.metadata.isReleased then _ else _)
      = Option.map _ (if gateway.metadata.isReleased then _ else _)
    split <;> rfl
  unfold Object.synced
  rw [deleted, kept]
  show (if want.isEmpty then _
    else if Sync.sameListeners gateway.spec.listeners want then _ else _) = _
  split
  · rfl
  · split <;> rfl

theorem Object.check_unversioned (gateway : Gateway) (settings : GatewaySettings) :
    gateway.unversioned.check settings = gateway.check settings :=
  Object.check_congr settings rfl rfl

-- =============================================================== syncs

variable {w : Cluster} {target : ObjectRef} {existing : Gateway}

/-- The sync made that of its gateway and touched nothing else. -/
structure Cluster.Yields (w after : Cluster) (target : ObjectRef) (made : Option Gateway) :
    Prop where
  calm : after.Calm
  routes : after.routes = w.routes
  others : ∀ other, other ≠ target → after.gateways.view other = w.gateways.view other
  target : after.gateways.view target = made

open Cluster (Yields)

theorem Cluster.Yields.unchanged (calm : w.Calm) {gateway : Option Gateway}
    (same : w.gateways.view target = gateway) : Yields w w target gateway :=
  ⟨calm, rfl, fun _ _ => rfl, same⟩

/-- A deletion removes the gateway, or marks it if something holds it. -/
theorem ends_delete_yields (calm : w.Calm) (found : w.gateways.get target = some existing) :
    (request (.gateways (.delete target existing.resourceVersion))).Ends performs w
      fun reply after => Sync.removed reply = .ok .deleted
        ∧ Yields w after target ((Store.deleted existing).map Object.unversioned) := by
  have calm' := calm.perform (.gateways (.delete target existing.resourceVersion))
  obtain ⟨ok, view⟩ := Store.delete_own found
  have reply : (w.perform (.gateways (.delete target existing.resourceVersion))).1 = .ok () := ok
  rw [ends_request_performs, reply]
  refine ⟨rfl, calm', rfl, fun other differ => ?_, ?_⟩
  · exact (view other).trans (if_neg (Ne.symm differ))
  · exact (view target).trans (if_pos rfl)

/-- The sync of a gateway that is there makes of it what the function says. -/
theorem ends_syncExisting_yields (calm : w.Calm)
    (found : w.gateways.get target = some existing) :
    (Sync.syncExisting target existing).Ends performs w fun result after =>
      result = .ok (existing.syncOutcome (w.wanted target))
        ∧ Yields w after target ((existing.synced (w.wanted target)).map Object.unversioned) := by
  rw [Object.synced, Object.syncOutcome]
  refine ends_syncExisting_of nofun (fun unwanted => ?unwanted) (fun wanted perm => ?same)
    fun wanted differ => ?differ
  case unwanted =>
    rw [if_pos (List.isEmpty_iff.2 unwanted), if_pos (List.isEmpty_iff.2 unwanted)]
    exact ends_delete_yields calm found
  case same =>
    have same := Cluster.sameListeners_wanted_iff.2 perm
    rw [if_neg (mt List.isEmpty_iff.1 wanted), if_neg (mt List.isEmpty_iff.1 wanted), if_pos same,
      if_pos same]
    refine ⟨rfl, .unchanged calm ?_⟩
    rw [Store.view, found]
  case differ =>
    have differ := mt Cluster.sameListeners_wanted_iff.1 differ
    rw [if_neg (mt List.isEmpty_iff.1 wanted), if_neg (mt List.isEmpty_iff.1 wanted),
      if_neg differ, if_neg differ]
    have calm' := calm.perform (.gateways (.merge target
      (Sync.listenersPatch existing (w.wanted target))))
    have performed := perform_merge_listeners calm found (w.wanted target)
    rw [ends_request_performs, performed]
    rw [performed] at calm'
    refine ⟨rfl, calm', rfl, fun other differ => ?_, ?_⟩
    · exact (w.gateways.view_replace target other _).trans (if_neg (Ne.symm differ))
    · exact (w.gateways.view_replace target target _).trans (if_pos rfl)

/-- Refreshing a gateway succeeds and makes of it what the function says. -/
theorem ends_refresh_yields (calm : w.Calm) :
    (Sync.refresh target).Ends performs w fun result after =>
      (∃ outcome, result = .ok outcome)
        ∧ Yields w after target (Sync.refreshed (w.wanted target) (w.gateways.view target)) := by
  have view : w.gateways.view target = (w.gateways.get target).map Object.unversioned := rfl
  refine ends_refresh_of nofun (fun missing => ?_) fun existing found => ?_
  · rw [view, missing]
    exact ⟨⟨_, rfl⟩, .unchanged calm (by rw [view, missing]; rfl)⟩
  · rw [view, found, Option.map_some, Sync.refreshed, Object.synced_unversioned]
    exact (ends_syncExisting_yields calm found).mono
      fun result after ⟨ok, yields⟩ => ⟨⟨_, ok⟩, yields⟩

/-- Creating a missing gateway succeeds, and makes what is wanted, if anything is. -/
theorem ends_create_yields (config : Config) (settings : GatewaySettings) (calm : w.Calm)
    (missing : w.gateways.get target = none) :
    (Sync.create config target settings).Ends performs w fun result after =>
      result = Sync.ensureResult settings (w.wanted target) none
        ∧ Yields w after target (Sync.ensured config target settings (w.wanted target) none) := by
  rw [Sync.ensured, Sync.ensureResult]
  refine ends_create_of nofun (fun unwanted => ?_) fun wanted => ?_
  · rw [if_pos (List.isEmpty_iff.2 unwanted), if_pos (List.isEmpty_iff.2 unwanted)]
    exact ⟨rfl, .unchanged calm (by rw [Store.view, missing]; rfl)⟩
  · rw [if_neg (mt List.isEmpty_iff.1 wanted), if_neg (mt List.isEmpty_iff.1 wanted)]
    let gateway := Gateway.recording target settings config.gatewayClass (w.wanted target)
    have calm' := calm.perform (.gateways (.create gateway))
    have performed : w.perform (.gateways (.create gateway)) = (.ok (w.gateways.stamped gateway),
        { w with gateways := w.gateways.keep target gateway }) :=
      perform_create_gateway calm missing
    rw [ends_request_performs, performed]
    rw [performed] at calm'
    refine ⟨rfl, calm', rfl, fun other differ => ?_, ?_⟩
    · exact (w.gateways.view_keep target other gateway).trans (if_neg (Ne.symm differ))
    · exact (w.gateways.view_keep target target gateway).trans (if_pos rfl)

/-- Ensuring a gateway ends as the function says and makes of it what the other
one says. -/
theorem ends_ensure_yields (config : Config) (settings : GatewaySettings) (calm : w.Calm) :
    (Sync.ensure config target settings).Ends performs w fun result after =>
      result = Sync.ensureResult settings (w.wanted target) (w.gateways.view target)
        ∧ Yields w after target
          (Sync.ensured config target settings (w.wanted target) (w.gateways.view target)) := by
  have view : w.gateways.view target = (w.gateways.get target).map Object.unversioned := rfl
  refine ends_ensure_of nofun (fun missing => ?missing) (fun existing violation found refused => ?_)
    fun existing found agrees => ?_
  case missing =>
    rw [view, missing]
    exact ends_create_yields config settings calm missing
  all_goals rw [view, found, Option.map_some, Sync.ensured, Sync.ensureResult,
    Object.check_unversioned, Object.synced_unversioned]
  · rw [refused]
    exact ⟨rfl, .unchanged calm (by rw [view, found]; rfl)⟩
  · rw [agrees]
    exact ends_syncExisting_yields calm found

-- ======================================================= held gateways

/-- No gateway is deleting that nothing holds any more. -/
def Cluster.Held (w : Cluster) : Prop :=
  ∀ target gateway, w.gateways.get target = some gateway → gateway.metadata.isReleased = false

/-- The version of a gateway does not matter to that. -/
theorem Cluster.held_iff_view : w.Held ↔ ∀ target gateway,
    w.gateways.view target = some gateway → gateway.metadata.isReleased = false := by
  constructor
  · intro held target gateway there
    obtain ⟨stored, found, rfl⟩ := Option.map_eq_some_iff.1 there
    exact held target stored found
  · intro held target gateway found
    refine held target gateway.unversioned ?_
    rw [Store.view, found]
    rfl

section Held

variable {gateway made : Gateway} {want : List Listener} {config : Config}
  {settings : GatewaySettings}

/-- What a sync leaves of a gateway that is not released is not released. -/
theorem Object.synced_held (held : gateway.metadata.isReleased = false)
    (synced : gateway.synced want = some made) : made.metadata.isReleased = false := by
  unfold Object.synced at synced
  split at synced
  · unfold Store.deleted at synced
    split at synced
    · cases synced
    · rename_i claimed
      split at synced
      · cases synced
        exact held
      · cases synced
        exact Bool.and_eq_false_iff.2 (.inr (Bool.eq_false_iff.2 claimed))
  · split at synced
    · cases synced
      exact held
    · unfold Store.kept at synced
      split at synced
      · cases synced
      · rename_i notReleased
        cases synced
        exact Bool.eq_false_iff.2 notReleased

/-- Ensuring leaves no gateway behind that is deleting while nothing holds it. -/
theorem Sync.ensured_held {gateway : Option Gateway}
    (held : ∀ g, gateway = some g → g.metadata.isReleased = false)
    (ensured : Sync.ensured config target settings want gateway = some made) :
    made.metadata.isReleased = false := by
  cases gateway with
  | none =>
    rw [Sync.ensured] at ensured
    split at ensured
    · cases ensured
    · cases ensured
      rfl
  | some g =>
    rw [Sync.ensured] at ensured
    split at ensured
    · exact Object.synced_held (held g rfl) ensured
    · cases ensured
      exact held made rfl

/-- A gateway that was ensured and is not reported to be gone is there, with the
listeners that are wanted. -/
theorem Sync.ensured_kept {gateway : Option Gateway} {outcome : SyncOutcome}
    (held : ∀ g, gateway = some g → g.metadata.isReleased = false)
    (ended : Sync.ensureResult settings (w.wanted target) gateway = .ok outcome)
    (notDeleted : outcome ≠ .deleted) (notAbsent : outcome ≠ .absent) :
    ∃ made, Sync.ensured config target settings (w.wanted target) gateway = some made
      ∧ made.spec.listeners.Perm (w.wanted target) := by
  cases gateway with
  | none =>
    rw [Sync.ensureResult, Except.ok.injEq] at ended
    rw [Sync.ensured]
    split
    · rename_i unwanted
      rw [if_pos unwanted] at ended
      exact absurd ended.symm notAbsent
    · exact ⟨_, rfl, .refl _⟩
  | some g =>
    rw [Sync.ensureResult] at ended
    rw [Sync.ensured]
    split at ended
    · cases ended
    · rename_i agrees
      rw [if_pos agrees, Object.synced]
      rw [Except.ok.injEq, Object.syncOutcome] at ended
      split
      · rename_i unwanted
        rw [if_pos unwanted] at ended
        exact absurd ended.symm notDeleted
      · split
        · rename_i same
          exact ⟨g, rfl, Cluster.sameListeners_wanted_iff.1 same⟩
        -- the patch does not release a gateway that was not released before
        · have stays : (g.withListeners (w.wanted target)).metadata.isReleased = false :=
            held g rfl
          rw [Store.kept, stays]
          exact ⟨_, rfl, .refl _⟩

end Held

end SharedGateway
