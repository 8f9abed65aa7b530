/-
What a sync reports is what it did.

# What can be believed

A sync learns of its gateway through calls, and two kinds of lies would spoil its
report: an error for a write that was done, and a missing object that is there. In
the clusters of this module neither happens. Calls may fail, but a failure changes no
object and does not report one missing that is there (`Cluster.reliable`). The first
half is what failed events are judged by, the second what syncs in line are judged
by; a run among faults has both if no plan is a missing object (`run_of_reliable`).

# What the outcomes mean

Each of the five outcomes says what the gateway was before, what the routes want of
it, and what it is now (`SyncOutcome.Attests`): created from nothing with the records
of the settings, patched from other listeners with all else left as it was, unchanged
with the listeners that are wanted in some order, deleted or marked with nobody
wanting it, absent before and after. An error of the store says that no object has
changed, and an error of policy that none has and that the gateway's records forbid
the settings (`Reports`).

The two entry points differ in what they make of a missing gateway only: one creates
it, for its settings, and one leaves it missing. So the sync of a gateway that is
there is judged once (`ends_syncExisting_reports`), for both; `asked` is what the
entry point was asked for. That an error of the store is reported only if a call
failed is a statement about the other runs, those in which every call succeeds
(`Unblemished`), and is turned round at the end (`failed_of_store_error`).
-/
import SharedGateway.Proofs.Failure

namespace SharedGateway

open Cluster (atomic succeeds SameObjects TouchesOnly)
open Script

variable {config : Config} {settings : GatewaySettings} {w after : Cluster}
  {target : ObjectRef} {gateway : Gateway} {fresh : Option Gateway}

-- ============================================================ answering

/-- The call is answered by its store, or fails without reaching it; and if it
fails, no object is changed, and none is reported missing that is there. -/
def Cluster.reliable : Answering := fun w c reply after =>
  atomic w c reply after ∧ after.TellsTruth c reply

open Cluster (reliable)

instance : Answering.Faithful reliable := ⟨fun answered => answered.1.1⟩

namespace Script

variable {ε α : Type} {s : Script ε α} {c : Call} {R : c.Reply → Cluster → Prop}
  {Q : Except ε α → Cluster → Prop}

/-- A call ends well as its store has it, or with an error that changed nothing and
reports nothing missing that is there. -/
theorem ends_request_reliable
    (ok : ∀ answer, (w.perform c).1 = .ok answer → R (.ok answer) (w.perform c).2)
    (error : ∀ e after, w.SameObjects after → (e.isNotFound = true → after.Misses c) →
      R (.error e) after) :
    (request c).Ends reliable w R := by
  rintro reply after ⟨⟨answered, same⟩, told⟩
  cases reply with
  | error e => exact error e after (same e rfl) (told e rfl)
  | ok answer =>
    obtain ⟨reply, rfl⟩ := Cluster.performs_of_ok answered
    exact ok answer reply

/-- Among such failures a run ends as demanded. -/
theorem run_of_reliable (h : w.FaultsOnly) (stays : w.Stays) (truthful : s.RunsHonestly w)
    (ends : s.Ends reliable w.unplanned Q) :
    Q (s.run w).result (s.run w).cluster.unplanned := by
  induction s generalizing w with
  | done result => exact ends
  | call c next ih =>
    obtain ⟨answered, stays'⟩ := atomic_answer h stays c
    have told : (w.answer c).after.unplanned.TellsTruth c (w.answer c).reply := by
      intro e failed reported
      cases c <;> exact truthful.1 e failed reported
    exact ih _ (h.answer c).2 stays' truthful.2 (ends _ _ ⟨answered, told⟩)

end Script

-- ============================================================= outcomes

/-- What an outcome says of the gateway and of the routes, before and after. The
settings are those of a route that asks for the gateway, if one does. -/
def SyncOutcome.Attests (config : Config) (asked : Option GatewaySettings) (w after : Cluster)
    (target : ObjectRef) : SyncOutcome → Prop
  | .created => w.gateways.get target = none ∧ w.wanted target ≠ []
    ∧ ∃ settings, asked = some settings
      ∧ after.Recorded config settings target (w.wanted target)
  | .patched => ∃ gateway version, w.gateways.get target = some gateway
    ∧ w.wanted target ≠ [] ∧ ¬ gateway.spec.listeners.Perm (w.wanted target)
    ∧ after.gateways.get target
      = some ((gateway.withListeners (w.wanted target)).withVersion version)
  | .unchanged => ∃ gateway, w.gateways.get target = some gateway
    ∧ w.wanted target ≠ [] ∧ gateway.spec.listeners.Perm (w.wanted target)
    ∧ after.gateways.get target = some gateway
  | .deleted => ∃ gateway, w.gateways.get target = some gateway ∧ w.wanted target = []
    ∧ ((gateway.finalizers = [] ∧ after.gateways.get target = none)
      ∨ (gateway.finalizers ≠ [] ∧ ∃ time version,
        after.gateways.get target = some (gateway.remarked (some time) version)))
  | .absent => w.gateways.get target = none ∧ after.gateways.get target = none
    ∧ (asked.isSome = true → w.wanted target = [])

namespace Cluster

/-- A gateway that is there has records that agree with what is asked for. -/
def Agrees (w : Cluster) (target : ObjectRef) (asked : Option GatewaySettings) : Prop :=
  ∀ gateway settings, w.gateways.get target = some gateway → asked = some settings →
    gateway.check settings = .ok ()

/-- An outcome attests what happened to a gateway that was not forbidden, and nothing
else has changed. An error says that nothing has, and is one of the store, or of a
gateway that was forbidden. -/
def Reports (config : Config) (asked : Option GatewaySettings) (w : Cluster)
    (target : ObjectRef) : Except SyncError SyncOutcome → Cluster → Prop
  | .ok outcome, after => outcome.Attests config asked w after target
    ∧ TouchesOnly w after target ∧ w.Agrees target asked
  | .error (.store _), after => SameObjects w after
  | .error (.policy violation), after => SameObjects w after
    ∧ ∃ gateway settings, w.gateways.get target = some gateway ∧ asked = some settings
      ∧ gateway.check settings = .error violation

variable {asked : Option GatewaySettings}

/-- A missing gateway has no records that could disagree. -/
theorem agrees_of_missing (missing : w.gateways.get target = none) : w.Agrees target asked := by
  intro gateway settings found
  cases missing.symm.trans found

theorem agrees_unasked : w.Agrees target none := by
  intro gateway settings _ asked
  cases asked

/-- What is planned does not matter to a report. -/
theorem reports_of_unplanned {result : Except SyncError SyncOutcome}
    (reports : Reports config asked w.unplanned target result after.unplanned) :
    Reports config asked w target result after := by
  rcases result with (cause | violation) | outcome
  · obtain ⟨routes, gateways⟩ := reports
    exact ⟨routes, gateways⟩
  · obtain ⟨⟨routes, gateways⟩, forbidden⟩ := reports
    exact ⟨⟨routes, gateways⟩, forbidden⟩
  · obtain ⟨attests, ⟨routes, gateways⟩, agrees⟩ := reports
    refine ⟨?_, ⟨routes, gateways⟩, agrees⟩
    cases outcome <;> exact attests

end Cluster

open Cluster (Reports)

section Existing

variable {asked : Option GatewaySettings} (found : w.gateways.get target = some gateway)
  (agrees : w.Agrees target asked)
include found agrees

/-- A gateway that is there is deleted, patched or left alone as it is reported; a
deletion marks it where others hold it. -/
theorem ends_syncExisting_reports (held : gateway.metadata.isReleased = false) :
    (Sync.syncExisting target gateway).Ends reliable w (Reports config asked w target) := by
  refine ends_syncExisting_of (fun _ _ => .refl w) (fun unwanted => ?unwanted)
    (fun wanted perm => ?same) fun wanted differ => ?differ
  case unwanted =>
    refine ends_request_reliable (fun answer deleted => ?_) fun cause after same told => ?_
    · obtain ⟨⟨e, failed⟩, -⟩ | ⟨stored, found', -, others, left⟩ :=
        w.gateways.delete_cases target gateway.resourceVersion
      · cases failed.symm.trans deleted
      · cases found.symm.trans found'
        exact ⟨⟨gateway, found, unwanted, left⟩, .of_store others, agrees⟩
    · refine Sync.removed_elim (.error cause) nofun (fun _ failed missing => ?_) fun _ _ _ => same
      -- the gateway was there, so the store cannot have reported it missing
      cases failed
      have gone : after.gateways.get target = none := told missing target rfl
      cases gone.symm.trans ((same.getGateway target).trans found)
  case same => exact ⟨⟨gateway, found, wanted, perm, found⟩, .refl w target, agrees⟩
  case differ =>
    refine ends_request_reliable (fun answer merged => ?_) fun e after same _ => same
    have stored := Store.get_of_merged found held merged
    refine ⟨⟨gateway, w.gateways.versionText, found, wanted, differ, ?_⟩,
      .of_store fun other apart => ?_, agrees⟩
    · exact (stored target).trans (if_pos rfl)
    · exact (stored other).trans (if_neg (Ne.symm apart))

end Existing

/-- A creation that succeeds makes the gateway that is missing. -/
theorem ends_create_reports (missing : w.gateways.get target = none) :
    (Sync.create config target settings).Ends reliable w
      (Reports config (some settings) w target) := by
  have agrees : w.Agrees target (some settings) := Cluster.agrees_of_missing missing
  refine ends_create_of (fun _ _ => .refl w) (fun unwanted => ?unwanted) fun wanted => ?wanted
  case unwanted => exact ⟨⟨missing, missing, fun _ => unwanted⟩, .refl w target, agrees⟩
  case wanted =>
    let gateway := Gateway.recording target settings config.gatewayClass (w.wanted target)
    refine ends_request_reliable (fun answer created => ?_) fun e after same _ => same
    obtain ⟨⟨e, failed⟩, -⟩ | ⟨-, -, stored⟩ := w.gateways.create_cases gateway
    · cases failed.symm.trans created
    · refine ⟨⟨missing, wanted, settings, rfl, w.gateways.versionText, ?_⟩,
        .of_store fun other apart => ?_, agrees⟩
      · exact (stored target).trans (if_pos rfl)
      · exact (stored other).trans (if_neg (Ne.symm apart))

-- ========================================================== entry points

/-- A refresh reports what it did, for no settings. -/
theorem ends_refresh_reports
    (held : ∀ gateway, w.gateways.get target = some gateway →
      gateway.metadata.isReleased = false) :
    (Sync.refresh target).Ends reliable w (Reports config none w target) :=
  ends_refresh_of (fun _ _ => .refl w)
    (fun missing => ⟨⟨missing, missing, nofun⟩, .refl w target, Cluster.agrees_unasked⟩)
    fun gateway found =>
      ends_syncExisting_reports found Cluster.agrees_unasked (held gateway found)

/-- Ensuring reports what it did, for the settings at hand. -/
theorem ends_ensure_reports
    (held : ∀ gateway, w.gateways.get target = some gateway →
      gateway.metadata.isReleased = false) :
    (Sync.ensure config target settings).Ends reliable w
      (Reports config (some settings) w target) := by
  refine ends_ensure_of (fun _ _ => .refl w) ends_create_reports
    (fun gateway _ found checked => ⟨.refl w, gateway, settings, found, rfl, checked⟩)
    fun gateway found checked => ?_
  have agrees : w.Agrees target (some settings) := by
    intro known _ found' asked
    cases found.symm.trans found'
    cases asked
    exact checked
  exact ends_syncExisting_reports found agrees (held gateway found)

-- ============================================================== errors

/-- The result is no error of a store. -/
def Unblemished (result : Except SyncError SyncOutcome) : Prop :=
  ∀ cause, result ≠ .error (.store cause)

theorem unblemished_ok (outcome : SyncOutcome) : Unblemished (.ok outcome) := by
  intro cause failed
  cases failed

/-- Where every call succeeds, the sync of a gateway that is there succeeds. -/
theorem ends_syncExisting_unblemished :
    (Sync.syncExisting target gateway).Ends succeeds w fun result _ => Unblemished result :=
  ends_syncExisting_of (fun _ failed => nomatch failed.2.choose_spec)
    (fun _ => ends_request_succeeds.2 fun _ _ => unblemished_ok .deleted)
    (fun _ _ => unblemished_ok .unchanged)
    fun _ _ => ends_request_succeeds.2 fun _ _ => unblemished_ok .patched

/-- Where every call succeeds, a gateway is created or not needed. -/
theorem ends_create_unblemished :
    (Sync.create config target settings).Ends succeeds w fun result _ => Unblemished result :=
  ends_create_of (fun _ failed => nomatch failed.2.choose_spec) (fun _ => unblemished_ok .absent)
    fun _ => ends_request_succeeds.2 fun _ _ => unblemished_ok .created

theorem ends_refresh_unblemished :
    (Sync.refresh target).Ends succeeds w fun result _ => Unblemished result :=
  ends_refresh_of (fun _ failed => nomatch failed.2.choose_spec) (fun _ => unblemished_ok .absent)
    fun _ _ => ends_syncExisting_unblemished

/-- Where every call succeeds, ensuring fails by policy only. -/
theorem ends_ensure_unblemished :
    (Sync.ensure config target settings).Ends succeeds w fun result _ => Unblemished result :=
  ends_ensure_of (fun _ failed => nomatch failed.2.choose_spec) (fun _ => ends_create_unblemished)
    (fun _ _ _ _ _ failed => nomatch failed) fun _ _ _ => ends_syncExisting_unblemished

/-- A sync that reports an error of a store has made a call that failed. -/
theorem failed_of_store_error {s : Script SyncError SyncOutcome} {cause : StoreError}
    (faultsOnly : w.FaultsOnly)
    (ends : s.Ends succeeds w.unplanned fun result _ => Unblemished result)
    (failed : (s.run w).result = .error (.store cause)) : ∃ m ∈ (s.run w).moments, m.Failed := by
  by_contra none
  have unfailed : ∀ m ∈ (s.run w).moments, ¬ m.Failed :=
    fun m member failed => none ⟨m, member, failed⟩
  exact run_of_unfailed faultsOnly unfailed ends cause failed

/-- Ensuring and refreshing report what they did to their gateway, whatever calls fail
as long as the failures change nothing and report nothing missing that is there. An
error of a store is reported only if a call failed. A refresh creates no gateway, and
no records forbid it. -/
theorem sync_attests_what_it_did (config : Config) {w : Cluster} (faultsOnly : w.FaultsOnly)
    (stays : w.Stays) (held : w.Held) (target : ObjectRef) (settings : GatewaySettings) :
    ((Sync.ensure config target settings).RunsHonestly w →
      let run := (Sync.ensure config target settings).run w
      Reports config (some settings) w target run.result run.cluster
        ∧ ∀ cause, run.result = .error (.store cause) → ∃ m ∈ run.moments, m.Failed)
    ∧ ((Sync.refresh target).RunsHonestly w →
      let run := (Sync.refresh target).run w
      Reports config none w target run.result run.cluster
        ∧ ∀ cause, run.result = .error (.store cause) → ∃ m ∈ run.moments, m.Failed) := by
  refine ⟨fun truthful => ⟨?_, ?_⟩, fun truthful => ⟨?_, ?_⟩⟩
  · exact Cluster.reports_of_unplanned (run_of_reliable faultsOnly stays truthful
      (ends_ensure_reports fun gateway found => held target gateway found))
  · exact fun cause => failed_of_store_error faultsOnly ends_ensure_unblemished
  · exact Cluster.reports_of_unplanned (run_of_reliable faultsOnly stays truthful
      (ends_refresh_reports fun gateway found => held target gateway found))
  · exact fun cause => failed_of_store_error faultsOnly ends_refresh_unblemished

/-- The one planned failure reports nothing missing. -/
theorem stumbling_truthful {ε α : Type} (s : Script ε α) : s.RunsHonestly stumbling := by
  refine runsHonestly_of_plans stumbling_faultsOnly fun site d planned => ?_
  simp only [stumbling] at planned
  split at planned
  · cases List.mem_singleton.1 planned
    intro same
    cases same
  · cases planned

/-- A patch that fails is reported and has changed nothing; a gateway that nobody
wants is reported deleted, and gone. -/
theorem stumbling_syncs_attest :
    let ensured := (Sync.ensure .standard ⟨"infra", "new"⟩ ⟨"internpki", "hnet-private"⟩).run
      stumbling
    let refreshed := (Sync.refresh ⟨"infra", "old"⟩).run stumbling
    (stumbling.SameObjects ensured.cluster ∧ ∃ m ∈ ensured.moments, m.Failed)
    ∧ refreshed.result = .ok .deleted
      ∧ SyncOutcome.deleted.Attests .standard none stumbling refreshed.cluster
        ⟨"infra", "old"⟩ := by
  intro ensured refreshed
  have attests := sync_attests_what_it_did .standard stumbling_faultsOnly ⟨rfl, rfl⟩
    stumbling_held
  have failed : ensured.result
      = .error (.store (.api ⟨"Failure", 500, "Injected", "injected"⟩)) := by decide +kernel
  have deleted : refreshed.result = .ok .deleted := by decide +kernel
  obtain ⟨reports, blamed⟩ := (attests ⟨"infra", "new"⟩ ⟨"internpki", "hnet-private"⟩).1
    (stumbling_truthful _)
  obtain ⟨reports', -⟩ := (attests ⟨"infra", "old"⟩ ⟨"internpki", "hnet-private"⟩).2
    (stumbling_truthful _)
  rw [show Run.result _ = _ from failed] at reports
  rw [show Run.result _ = _ from deleted] at reports'
  exact ⟨⟨reports, blamed _ failed⟩, deleted, reports'.1⟩

end SharedGateway
