/-
Syncs whose failures can be believed.

A sync passes every failure on but one: a deletion that is told its gateway is gone
counts as done (`removed_elim`). In a cluster where calls may fail in any way that is
all that stands between a sync that succeeds and a gateway that is as it should be,
for the report might be false. So if no call reports an object missing that is there,
a sync that succeeds leaves its gateway in line with the routes
(`ends_refresh_inLine`, `ends_ensure_inLine`): it is gone, or nobody wants it and it
is going, or it has the listeners that are wanted, by the patch or the creation of
this sync or from before.

The routes are read before the gateway is written and no call of a sync writes a
route, so in line at the time of the write is in line at the end. Among writes of
others this would be false, which is why the lemmas are about the cluster that the
sync starts in and say nothing of plans.
-/
import SharedGateway.Proofs.Sync

namespace SharedGateway

open Cluster (mayFail honest)
open Script

variable {w : Cluster} {target : ObjectRef} {existing : Gateway}

/-- A missing gateway is in line: it has no listener that could be wrong. -/
theorem Cluster.inLine_of_missing (missing : w.gateways.get target = none) :
    w.InLine target := by
  intro gateway there
  cases missing.symm.trans there

/-- A deletion that is answered counts as done if it was, or if its gateway is gone. -/
theorem leaves_removed {reply : Except StoreError Unit} (deleted : reply = .ok () → w.InLine target)
    (told : ∀ cause, reply = .error cause → cause.isNotFound = true →
      w.gateways.get target = none) :
    Leaves (·.InLine target) (fun _ => True) (Sync.removed reply) w :=
  Sync.removed_elim reply deleted
    (fun cause failed missing => Cluster.inLine_of_missing (told cause failed missing))
    fun _ _ _ => trivial

/-- A gateway that is there is in line after a sync that succeeds: it is gone, or has the
listeners that are wanted. -/
theorem ends_syncExisting_inLine (found : w.gateways.get target = some existing) :
    (Sync.syncExisting target existing).Ends honest w
      (Leaves (·.InLine target) fun _ => True) := by
  refine ends_syncExisting_of (fun _ _ => trivial) (fun unwanted => ?unwanted)
    (fun _ perm gateway there => ?same) fun _ differ => ?differ
  case unwanted =>
    have deleted := (syncs_delete found unwanted existing.resourceVersion).2
    -- a report that there is no gateway is believed, and is true
    have truth := w.tellsTruth_perform (.gateways (.delete target existing.resourceVersion))
    refine ends_request_honest.2 ⟨?_, fun cause told => ?_⟩
    · exact leaves_removed (deleted ()) fun cause failed missing =>
        truth cause failed missing target rfl
    · refine leaves_removed (nofun : Except.error cause = Except.ok () → _)
        fun other same missing => ?_
      cases same
      exact told missing target rfl
  case same =>
    cases found.symm.trans there
    exact .inl perm
  case differ =>
    obtain ⟨syncs, merged⟩ := syncs_merge found differ
    refine ends_request_honest.2 ⟨?_, fun e _ => trivial⟩
    generalize w.perform (.gateways (.merge target
      (Sync.listenersPatch existing (w.wanted target)))) = exchange at syncs merged
    cases reply : exchange.1 with
    | error e => exact trivial
    | ok answer =>
      intro gateway there
      rw [(merged answer reply gateway there).1, syncs.wanted]
      exact .inl (.refl _)

/-- A refresh that succeeds leaves its gateway in line. -/
theorem ends_refresh_inLine :
    (Sync.refresh target).Ends honest w (Leaves (·.InLine target) fun _ => True) :=
  ends_refresh_of (fun _ _ => trivial) Cluster.inLine_of_missing
    fun _ found => ends_syncExisting_inLine found

/-- A gateway that is created with success is in line, and so is one that is not created
since nobody wants it. -/
theorem ends_create_inLine (config : Config) (settings : GatewaySettings)
    (missing : w.gateways.get target = none) :
    (Sync.create config target settings).Ends honest w
      (Leaves (·.InLine target) fun _ => True) := by
  refine ends_create_of (fun _ _ => trivial) (fun _ => Cluster.inLine_of_missing missing)
    fun _ => ends_request_honest.2 ⟨?_, fun e _ => trivial⟩
  obtain ⟨touched, made⟩ := recorded_create config settings (w.wanted target) missing
  generalize w.perform (.gateways (.create (Gateway.recording target settings
    config.gatewayClass (w.wanted target)))) = exchange at touched made
  have inLine : exchange.2.InLine target := by
    obtain missing | ⟨version, recorded⟩ := made
    · exact Cluster.inLine_of_missing missing
    · intro gateway there
      cases recorded.symm.trans there
      rw [touched.wanted]
      exact .inl (.refl _)
  cases exchange.1 with
  | ok answer => exact inLine
  | error e => exact trivial

/-- A gateway that is ensured with success is in line. -/
theorem ends_ensure_inLine (config : Config) (settings : GatewaySettings) :
    (Sync.ensure config target settings).Ends honest w
      (Leaves (·.InLine target) fun _ => True) :=
  ends_ensure_of (fun _ _ => trivial) (ends_create_inLine config settings)
    (fun _ _ _ _ => trivial) fun _ found _ => ends_syncExisting_inLine found

end SharedGateway
