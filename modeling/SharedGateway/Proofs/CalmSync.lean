/-
Syncs that nothing disturbs.

# Gateways that the operator made

In a calm cluster, which plans no disturbance and holds no mark of another writer, no
call fails without a reason in its store. A gateway that the operator made carries
listeners that some list of routes asked for and nothing that anybody else wrote
(`Cluster.Made`); in particular no finalizer holds it and it is not deleting. So the
version that a sync has read is the stored one, its patch goes through, and a
deletion removes the gateway at once (`perform_merge_listeners`, `ends_delete_made`).

# What a sync tends to

A sync of such a gateway succeeds, and leaves a gateway that the operator made with
exactly what the routes want, or none (`Cluster.Tends`). Being made is kept, so the
same may be said of the next sync; that is what makes this the step of the induction
by which gateways converge. Refreshing may leave a missing gateway missing
(`ends_refresh_made`); ensuring makes it if anybody wants it (`ends_ensure_made`),
and that is the one difference between the two.
-/
import SharedGateway.Proofs.Sync

namespace SharedGateway

open Cluster (performs TouchesOnly)
open Script

namespace Cluster

/-- No disturbance is planned and neither store awaits one. -/
structure Calm (w : Cluster) : Prop where
  unplanned : w.Unplanned
  routes : w.routes.Calm
  gateways : w.gateways.Calm

theorem Calm.perform {w : Cluster} (h : w.Calm) (c : Call) : (w.perform c).2.Calm := by
  cases c with
  | routes request => exact ⟨h.unplanned, h.routes.perform request, h.gateways⟩
  | gateways request => exact ⟨h.unplanned, h.routes, h.gateways.perform request⟩

/-- The gateway is not there, or it is one that the operator made for the
settings, with listeners that it computed. -/
def Made (w : Cluster) (config : Config) (settings : GatewaySettings) (target : ObjectRef) :
    Prop :=
  w.gateways.get target = none ∨ ∃ routes,
    w.Recorded config settings target (Aggregation.ofRoutes routes target).listeners

/-- Whether a gateway was made for the settings is a matter of the gateway alone. -/
theorem made_congr {w after : Cluster} {config : Config} {settings : GatewaySettings}
    {target : ObjectRef} (same : after.gateways.get target = w.gateways.get target) :
    after.Made config settings target ↔ w.Made config settings target := by
  unfold Made Recorded
  rw [same]

end Cluster

theorem ends_calm {ε α : Type} {s : Script ε α} {w : Cluster} (h : w.Calm) :
    s.Ends performs w fun _ after => after.Calm := by
  induction s generalizing w with
  | done result => exact h
  | call c next ih =>
    intro reply after performed
    obtain ⟨-, rfl⟩ := Cluster.performs_iff.1 performed
    exact ih reply (h.perform c)

variable {config : Config} {settings : GatewaySettings} {w : Cluster} {target : ObjectRef}

/-- A patch of the listeners of a gateway as it was read succeeds. -/
theorem perform_merge_listeners {existing : Gateway} (calm : w.Calm)
    (found : w.gateways.get target = some existing) (listeners : List Listener) :
    w.perform (.gateways (.merge target (Sync.listenersPatch existing listeners)))
      = (.ok (w.gateways.stamped (existing.withListeners listeners)),
        { w with gateways := w.gateways.replace target (existing.withListeners listeners) }) := by
  show ((w.gateways.merge target _).1, { w with gateways := (w.gateways.merge target _).2 }) = _
  rw [calm.gateways.merge_eq found (versionOfPatch?_listenersPatch existing listeners)
    (ofJson?_listenersPatch existing listeners)]

/-- A gateway that is missing can be created. -/
theorem perform_create_gateway {gateway : Gateway} (calm : w.Calm)
    (missing : w.gateways.get gateway.ref = none) :
    w.perform (.gateways (.create gateway)) = (.ok (w.gateways.stamped gateway),
      { w with gateways := w.gateways.keep gateway.ref gateway }) := by
  show ((w.gateways.create _).1, { w with gateways := (w.gateways.create _).2 }) = _
  rw [calm.gateways.create_eq missing]

/-- What a sync leaves that succeeds: a gateway with what is wanted, or none. -/
structure Cluster.Tends (config : Config) (settings : GatewaySettings) (w after : Cluster)
    (target : ObjectRef) : Prop extends TouchesOnly w after target where
  made : after.Made config settings target
  fresh : ¬ after.Stale target

open Cluster (Tends Made)

/-- A gateway with the listeners that are wanted is one that the operator made,
and it is not stale. -/
theorem Cluster.TouchesOnly.tends {after : Cluster} (touched : TouchesOnly w after target)
    (wanted : w.wanted target ≠ [])
    (recorded : after.Recorded config settings target (w.wanted target)) :
    Tends config settings w after target := by
  refine ⟨touched, .inr ⟨w.routes.list, recorded⟩, ?_⟩
  intro out
  obtain ⟨gateway, there, stale⟩ := out
  obtain ⟨version, recorded⟩ := recorded
  cases recorded.symm.trans there
  rw [touched.wanted] at stale
  exact stale.elim wanted fun differ => differ (.refl _)

theorem Cluster.TouchesOnly.tends_of_missing {after : Cluster}
    (touched : TouchesOnly w after target) (missing : after.gateways.get target = none) :
    Tends config settings w after target := by
  refine ⟨touched, .inl missing, ?_⟩
  intro out
  obtain ⟨gateway, there, -⟩ := out
  cases missing.symm.trans there

/-- A gateway that the operator made can be deleted when nobody wants it: no
finalizer holds it, and the version that was read is the stored one. -/
theorem ends_delete_made {existing : Gateway} (free : existing.finalizers = [])
    (found : w.gateways.get target = some existing) :
    (request (.gateways (.delete target existing.resourceVersion))).Ends performs w
      fun reply after => (∃ outcome, Sync.removed reply = .ok outcome)
        ∧ Tends config settings w after target := by
  let erased : Store GatewaySpec := { w.gateways with objects := w.gateways.objects.erase target }
  have performed : w.perform (.gateways (.delete target existing.resourceVersion))
      = (.ok (), { w with gateways := erased }) := by
    show ((w.gateways.delete target _).1, { w with gateways := (w.gateways.delete target _).2 })
      = _
    rw [Store.delete_eq found free]
  have missing : erased.get target = none := by
    rw [Store.get_of_erased rfl, if_pos rfl]
  have touched : TouchesOnly w { w with gateways := erased } target :=
    .of_store fun other differ => by
      rw [Store.get_of_erased rfl, if_neg (Ne.symm differ)]
  rw [ends_request_performs, performed]
  exact ⟨⟨.deleted, rfl⟩, touched.tends_of_missing missing⟩

/-- A gateway that was made for the settings is removed when nobody wants it,
and else given the listeners that are wanted. -/
theorem ends_syncExisting_made (calm : w.Calm) {routes : List Route} {version : String}
    {existing : Gateway}
    (isMade : existing = (Gateway.recording target settings config.gatewayClass
      (Aggregation.ofRoutes routes target).listeners).withVersion version)
    (found : w.gateways.get target = some existing) :
    (Sync.syncExisting target existing).Ends performs w fun result after =>
      (∃ outcome, result = .ok outcome) ∧ Tends config settings w after target
        ∧ (after.gateways.get target = none → w.wanted target = []) := by
  refine ends_syncExisting_of nofun (fun unwanted => ?unwanted) (fun wanted perm => ?same)
    fun wanted differ => ?differ
  case unwanted =>
    -- nothing holds a gateway that the operator made
    have free : existing.finalizers = [] := by rw [isMade]; rfl
    exact (ends_delete_made free found).mono
      fun reply after ⟨ok, tends⟩ => ⟨ok, tends, fun _ => unwanted⟩
  case same =>
    refine ⟨⟨_, rfl⟩, ⟨.refl w target, .inr ⟨routes, version, isMade ▸ found⟩, fun stale => ?_⟩,
      fun missing => ?_⟩
    · obtain ⟨gateway, there, stale⟩ := stale
      cases found.symm.trans there
      exact stale.elim wanted fun differ => differ perm
    · cases missing.symm.trans found
  case differ =>
    subst isMade
    rw [ends_request_performs, perform_merge_listeners calm found]
    let patched := (Gateway.recording target settings config.gatewayClass
      (w.wanted target)).withVersion version
    let after : Cluster := { w with gateways := w.gateways.replace target patched }
    have touched : TouchesOnly w after target := .of_store fun other differ => by
      rw [Store.get_replace, if_neg (Ne.symm differ)]
    have recorded : after.Recorded config settings target (w.wanted target) :=
      ⟨w.gateways.versionText, (w.gateways.get_replace target target patched).trans (if_pos rfl)⟩
    refine ⟨⟨.patched, rfl⟩, touched.tends wanted recorded, fun missing => ?_⟩
    cases recorded.choose_spec.symm.trans missing

/-- Refreshing a gateway that was made, or is missing, succeeds. It stays missing
if it was, and is removed only if nobody wants it. -/
theorem ends_refresh_made (calm : w.Calm) (isMade : w.Made config settings target) :
    (Sync.refresh target).Ends performs w fun result after =>
      (∃ outcome, result = .ok outcome) ∧ Tends config settings w after target
        ∧ (after.gateways.get target = none →
          w.gateways.get target = none ∨ w.wanted target = []) := by
  refine ends_refresh_of nofun (fun missing => ?_) fun existing found => ?_
  · exact ⟨⟨_, rfl⟩, (TouchesOnly.refl w target).tends_of_missing missing, fun _ => .inl missing⟩
  · obtain missing | ⟨routes, version, recorded⟩ := isMade
    · cases missing.symm.trans found
    · exact (ends_syncExisting_made calm (Option.some.inj (found.symm.trans recorded)) found).mono
        fun result after ⟨ok, tends, missing⟩ => ⟨ok, tends, fun gone => .inr (missing gone)⟩

/-- A gateway that is missing is created, unless nobody wants it. -/
theorem ends_create_made (calm : w.Calm) (missing : w.gateways.get target = none) :
    (Sync.create config target settings).Ends performs w fun result after =>
      (∃ outcome, result = .ok outcome) ∧ Tends config settings w after target
        ∧ (after.gateways.get target = none → w.wanted target = []) := by
  refine ends_create_of nofun (fun unwanted => ?_) fun wanted => ?_
  · exact ⟨⟨_, rfl⟩, (TouchesOnly.refl w target).tends_of_missing missing, fun _ => unwanted⟩
  · let gateway := Gateway.recording target settings config.gatewayClass (w.wanted target)
    let after : Cluster := { w with gateways := w.gateways.keep target gateway }
    have performed : w.perform (.gateways (.create gateway))
        = (.ok (w.gateways.stamped gateway), after) := perform_create_gateway calm missing
    have touched : TouchesOnly w after target := .of_store fun other differ => by
      rw [Store.get_keep, if_neg (Ne.symm differ)]
    have recorded : after.Recorded config settings target (w.wanted target) :=
      ⟨w.gateways.versionText, (w.gateways.get_keep target target gateway).trans (if_pos rfl)⟩
    rw [ends_request_performs, performed]
    exact ⟨⟨.created, rfl⟩, touched.tends wanted recorded, fun missing =>
      nomatch recorded.choose_spec.symm.trans missing⟩

/-- Ensuring a gateway for the settings that it was made for succeeds, and leaves
it missing only if nobody wants it. -/
theorem ends_ensure_made (calm : w.Calm) (isMade : w.Made config settings target) :
    (Sync.ensure config target settings).Ends performs w fun result after =>
      (∃ outcome, result = .ok outcome) ∧ Tends config settings w after target
        ∧ (after.gateways.get target = none → w.wanted target = []) := by
  refine ends_ensure_of nofun (ends_create_made calm) (fun existing violation found refused => ?_)
    fun existing found _ => ?_
  · obtain missing | ⟨routes, version, recorded⟩ := isMade
    · cases missing.symm.trans found
    · -- the settings that the gateway was made for are those that it records
      cases recorded.symm.trans found
      cases (Gateway.check_recording _ _ _ _ _).symm.trans refused
  · obtain missing | ⟨routes, version, recorded⟩ := isMade
    · cases missing.symm.trans found
    · exact ends_syncExisting_made calm (Option.some.inj (found.symm.trans recorded)) found

end SharedGateway
