/-
What bringing one gateway in line does.

# The rules

A sync reads the routes and its gateway, which changes nothing, and then makes one
write at most. So it is enough to say what is to hold of that write, and of the ends
without one. The rules `ends_syncExisting_of`, `ends_create_of`, `ends_refresh_of` and
`ends_ensure_of` do this once, for every notion of how calls may be answered that is
faithful to the stores: each has one hypothesis for each way through the operation,
in terms of what the routes want and of what is stored, and the hypothesis for a
write speaks of the bare call. All that is shown of syncs, here and in the modules
for calm, honest, atomic and reliable answers, goes through these rules.

# What holds whatever fails

A sync touches nothing but its own gateway, and if it changes that one, it leaves it
in line with the routes (`ends_refresh`, `ends_ensure`). The two writes that can
change a gateway carry this: a deletion of one that nobody wants leaves it gone or
going away (`syncs_delete`), a patch leaves the listeners that are wanted
(`syncs_merge`). A write that fails may have met another writer's removal of the
gateway; a gateway that is gone is in line too, so the statement survives. When no call
fails the gateway is in line at the end for certain (`refresh_inLine`).
-/
import SharedGateway.Proofs.Aggregation
import SharedGateway.Proofs.Codec.Patches
import SharedGateway.Proofs.Ends
import SharedGateway.Proofs.Operations
import SharedGateway.Proofs.Store

namespace SharedGateway

open Cluster (performs mayFail succeeds)

-- ============================================================== in line

namespace Cluster

variable {w after : Cluster} {target : ObjectRef}

/-- The listeners that all routes together ask of a gateway. -/
def wanted (w : Cluster) (target : ObjectRef) : List Listener :=
  (Aggregation.ofRoutes w.routes.list target).listeners

/-- The gateway is in line with the routes: it is not there, or it has their
listeners in some order, or it is going away and nobody wants it. -/
def InLine (w : Cluster) (target : ObjectRef) : Prop :=
  ∀ gateway, w.gateways.get target = some gateway →
    gateway.spec.listeners.Perm (w.wanted target)
      ∨ (gateway.isDeleting = true ∧ w.wanted target = [])

/-- Routes that contribute the same, each under its key, want the same. -/
theorem wanted_congr (h : ∀ key hostname,
    (∃ route, w.routes.get key = some route ∧ route.serves target hostname)
      ↔ ∃ route, after.routes.get key = some route ∧ route.serves target hostname) :
    w.wanted target = after.wanted target := by
  refine Aggregation.listeners_congr fun hostname => ?_
  constructor
  · intro contributed
    obtain ⟨route, listed, serves⟩ := contributed
    obtain ⟨key, found⟩ := Store.mem_list.1 listed
    obtain ⟨other, found, serves⟩ := (h key hostname).1 ⟨route, found, serves⟩
    exact ⟨other, Store.mem_list.2 ⟨key, found⟩, serves⟩
  · intro contributed
    obtain ⟨route, listed, serves⟩ := contributed
    obtain ⟨key, found⟩ := Store.mem_list.1 listed
    obtain ⟨other, found, serves⟩ := (h key hostname).2 ⟨route, found, serves⟩
    exact ⟨other, Store.mem_list.2 ⟨key, found⟩, serves⟩

/-- Only one route differs, and it contributes what it did. -/
theorem wanted_of_others {key : ObjectRef}
    (others : ∀ other, other ≠ key → after.routes.get other = w.routes.get other)
    (same : ∀ hostname,
      (∃ route, w.routes.get key = some route ∧ route.serves target hostname)
        ↔ ∃ route, after.routes.get key = some route ∧ route.serves target hostname) :
    after.wanted target = w.wanted target := by
  refine (wanted_congr fun other hostname => ?_).symm
  by_cases isKey : other = key
  · subst isKey
    exact same hostname
  · rw [others other isKey]

/-- Only one route differs, and it contributes nothing to the gateway. -/
theorem wanted_of_apart {key : ObjectRef}
    (others : ∀ other, other ≠ key → after.routes.get other = w.routes.get other)
    (before : ∀ route, w.routes.get key = some route →
      ∀ hostname, ¬ route.serves target hostname)
    (later : ∀ route, after.routes.get key = some route →
      ∀ hostname, ¬ route.serves target hostname) :
    after.wanted target = w.wanted target := by
  refine wanted_of_others others fun hostname => iff_of_false ?_ ?_
  · intro contributed
    obtain ⟨route, found, serves⟩ := contributed
    exact before route found hostname serves
  · intro contributed
    obtain ⟨route, found, serves⟩ := contributed
    exact later route found hostname serves

/-- Nobody wants a gateway if no stored route serves a hostname by it. -/
theorem wanted_eq_nil_iff : w.wanted target = []
    ↔ ∀ key route, w.routes.get key = some route → ∀ hostname, ¬ route.serves target hostname := by
  rw [wanted, Aggregation.listeners_eq_nil_iff]
  constructor
  · exact fun h key route found => h route (Store.mem_list.2 ⟨key, found⟩)
  · intro h route listed
    obtain ⟨key, found⟩ := Store.mem_list.1 listed
    exact h key route found

theorem sameListeners_wanted_iff {listeners : List Listener} :
    Sync.sameListeners listeners (w.wanted target) = true
      ↔ listeners.Perm (w.wanted target) :=
  Sync.sameListeners_iff_perm Aggregation.nodup_listeners

/-- Nothing but the one gateway differs. -/
structure TouchesOnly (w after : Cluster) (target : ObjectRef) : Prop where
  routes : after.routes = w.routes
  gateways : ∀ other, other ≠ target → after.gateways.get other = w.gateways.get other

theorem TouchesOnly.of_store {gateways : Store GatewaySpec}
    (others : ∀ other, other ≠ target → gateways.get other = w.gateways.get other) :
    TouchesOnly w { w with gateways } target :=
  ⟨rfl, others⟩

theorem TouchesOnly.refl (w : Cluster) (target : ObjectRef) : TouchesOnly w w target :=
  ⟨rfl, fun _ _ => rfl⟩

theorem TouchesOnly.wanted (h : TouchesOnly w after target) (other : ObjectRef) :
    after.wanted other = w.wanted other := by
  rw [Cluster.wanted, h.routes, Cluster.wanted]

theorem TouchesOnly.inLine_iff (h : TouchesOnly w after target) {other : ObjectRef}
    (differ : other ≠ target) : after.InLine other ↔ w.InLine other := by
  unfold InLine
  rw [h.gateways other differ, h.wanted]

end Cluster

-- =============================================================== stale

namespace Cluster

/-- The gateway is there, and its listeners are to be replaced or nobody wants
it. -/
def Stale (w : Cluster) (target : ObjectRef) : Prop :=
  ∃ gateway, w.gateways.get target = some gateway
    ∧ (w.wanted target = [] ∨ ¬ gateway.spec.listeners.Perm (w.wanted target))

/-- The gateway was stale and is in line. If it is still there, it is held to the same
records: what it was asked for before it may be asked for now, and nothing else. -/
structure Amends (w after : Cluster) (target : ObjectRef) : Prop where
  stale : w.Stale target
  inLine : after.InLine target
  records : ∀ gateway gateway', w.gateways.get target = some gateway →
    after.gateways.get target = some gateway' →
    ∀ settings, gateway'.check settings = gateway.check settings

/-- What a sync may do: nothing, or bring its one gateway in line. -/
structure Syncs (w after : Cluster) (target : ObjectRef) : Prop
    extends TouchesOnly w after target where
  change : after.gateways.get target = w.gateways.get target ∨ w.Amends after target

theorem Syncs.refl (w : Cluster) (target : ObjectRef) : Syncs w w target :=
  ⟨.refl w target, .inl rfl⟩

/-- What ensuring a gateway may do: nothing, or bring it in line if its records
agree with the settings. -/
structure Ensures (w after : Cluster) (target : ObjectRef) (settings : GatewaySettings) : Prop
    extends TouchesOnly w after target where
  inLine : after.gateways.get target = w.gateways.get target
    ∨ (after.InLine target ∧ ∀ gateway, w.gateways.get target = some gateway →
      gateway.check settings = .ok ())

theorem Ensures.refl (w : Cluster) (target : ObjectRef) (settings : GatewaySettings) :
    Ensures w w target settings :=
  ⟨.refl w target, .inl rfl⟩

end Cluster

open Cluster (Syncs TouchesOnly Ensures)

-- ============================================================= records

/-- The check reads the records of issuer and zone only. -/
theorem Object.check_congr {gateway other : Gateway} (settings : GatewaySettings)
    (annotations : other.metadata.annotations = gateway.metadata.annotations)
    (infrastructure : other.spec.infrastructure = gateway.spec.infrastructure) :
    other.check settings = gateway.check settings := by
  have issuer : other.recordedIssuer? = gateway.recordedIssuer? := by
    rw [Object.recordedIssuer?, Object.annotated?, annotations]
    rfl
  have zone : other.recordedZone? = gateway.recordedZone? := by
    rw [Object.recordedZone?, infrastructure]
    rfl
  unfold Object.check
  rw [issuer, zone]

/-- A new gateway agrees with the settings that it records. -/
theorem Gateway.check_recording (target : ObjectRef) (settings : GatewaySettings)
    (className : String) (listeners : List Listener) (version : String) :
    ((Gateway.recording target settings className listeners).withVersion version).check
      settings = .ok () := by
  simp [Object.check, Object.recordedIssuer?, Object.recordedZone?, Object.annotated?,
    Gateway.recording, Object.withVersion, Table.ofList, Table.find?_insert]

-- =============================================================== syncs

variable {w : Cluster} {target : ObjectRef} {existing : Gateway}

open Script

/-- The gateway is read from its store, or reading it fails. -/
theorem ends_read_bind {answering : Answering} [answering.Faithful] {β : Type}
    {f : Option Gateway → Script SyncError β} {Q : Except SyncError β → Cluster → Prop}
    (ok : (f (w.gateways.get target)).Ends answering w Q)
    (error : ∀ e, answering w (.gateways (.get target)) (.error e) w → Q (.error (.store e)) w) :
    ((liftM (Gateways.get target) : Script SyncError (Option Gateway)) >>= f).Ends
      answering w Q := by
  unfold Gateways.get
  rw [lift_store, ends_bind, ends_mapError]
  exact ends_request_read rfl ok error

/-- Collecting reads the routes and yields the wanted listeners, or fails. -/
theorem ends_collect_bind {answering : Answering} [answering.Faithful] {β : Type}
    {f : Aggregation → Script SyncError β} {Q : Except SyncError β → Cluster → Prop}
    (ok : ∀ a, a.listeners = w.wanted target → (f a).Ends answering w Q)
    (error : ∀ e, answering w (.routes .list) (.error e) w → Q (.error (.store e)) w) :
    ((liftM (Sync.collect target) : Script SyncError Aggregation) >>= f).Ends
      answering w Q := by
  unfold Sync.collect Routes.list
  rw [lift_store, ends_bind, ends_mapError, ends_bind]
  exact ends_request_read rfl (ok _ rfl) error

-- ================================================================ rules

section Rules

variable {answering : Answering} {Q : Except SyncError SyncOutcome → Cluster → Prop}

/-- A removal ends as its deletion does, but for a gateway that is reported missing. -/
theorem ends_remove_iff : (Sync.remove target existing).Ends answering w Q
    ↔ (request (.gateways (.delete target existing.resourceVersion))).Ends answering w
      fun reply after => Q (Sync.removed reply) after := by
  rw [Sync.remove_eq, ends_bind, ends_attempt]
  rfl

/-- A sync that ends with a write ends as that does. -/
theorem ends_wrote_iff {c : Call} {outcome : SyncOutcome} :
    ((request c).mapError .store >>= fun _ => pure outcome).Ends answering w Q
      ↔ (request c).Ends answering w fun reply after => Q (Sync.wrote outcome reply) after := by
  refine forall_congr' fun reply => forall_congr' fun after => imp_congr_right fun _ => ?_
  cases reply <;> rfl

variable [answering.Faithful]

/-- A gateway that is there is deleted if nobody wants it, left alone if it is in line,
and patched else, and its sync ends as that does. -/
theorem ends_syncExisting_of
    (unread : ∀ e, answering w (.routes .list) (.error e) w → Q (.error (.store e)) w)
    (unwanted : w.wanted target = [] →
      (request (.gateways (.delete target existing.resourceVersion))).Ends answering w
        fun reply after => Q (Sync.removed reply) after)
    (same : w.wanted target ≠ [] → existing.spec.listeners.Perm (w.wanted target) →
      Q (.ok .unchanged) w)
    (differ : w.wanted target ≠ [] → ¬ existing.spec.listeners.Perm (w.wanted target) →
      (request (.gateways (.merge target
        (Sync.listenersPatch existing (w.wanted target))))).Ends answering w
          fun reply after => Q (Sync.wrote .patched reply) after) :
    (Sync.syncExisting target existing).Ends answering w Q := by
  refine Sync.syncExisting_elim target existing
    (K := fun a s => a.listeners = w.wanted target → s.Ends answering w Q)
    (fun f rest => ends_collect_bind rest unread) ?_ ?_ ?_
  · intro a empty collected
    exact ends_remove_iff.2 (unwanted (collected ▸ List.isEmpty_iff.1 empty))
  · intro a nonempty isSame collected
    rw [collected] at isSame
    exact same (collected ▸ List.isEmpty_eq_false_iff.1 nonempty)
      (Cluster.sameListeners_wanted_iff.1 isSame)
  · intro a nonempty differs collected
    rw [collected] at differs ⊢
    refine ends_wrote_iff.2 (differ (collected ▸ List.isEmpty_eq_false_iff.1 nonempty) ?_)
    exact mt Cluster.sameListeners_wanted_iff.2 (Bool.eq_false_iff.1 differs)

/-- A missing gateway is left missing if nobody wants it, and its creation ends the sync
else. -/
theorem ends_create_of {config : Config} {settings : GatewaySettings}
    (unread : ∀ e, answering w (.routes .list) (.error e) w → Q (.error (.store e)) w)
    (unwanted : w.wanted target = [] → Q (.ok .absent) w)
    (wanted : w.wanted target ≠ [] → (request (.gateways (.create
      (Gateway.recording target settings config.gatewayClass (w.wanted target))))).Ends
        answering w fun reply after => Q (Sync.wrote .created reply) after) :
    (Sync.create config target settings).Ends answering w Q := by
  refine Sync.create_elim config target settings
    (K := fun a s => a.listeners = w.wanted target → s.Ends answering w Q)
    (fun f rest => ends_collect_bind rest unread) ?_ ?_
  · intro a empty collected
    exact unwanted (collected ▸ List.isEmpty_iff.1 empty)
  · intro a nonempty collected
    rw [collected]
    exact ends_wrote_iff.2 (wanted (collected ▸ List.isEmpty_eq_false_iff.1 nonempty))

/-- A refresh ends as the sync of its gateway does, if it finds one. -/
theorem ends_refresh_of
    (unread : ∀ e, answering w (.gateways (.get target)) (.error e) w → Q (.error (.store e)) w)
    (missing : w.gateways.get target = none → Q (.ok .absent) w)
    (found : ∀ existing, w.gateways.get target = some existing →
      (Sync.syncExisting target existing).Ends answering w Q) :
    (Sync.refresh target).Ends answering w Q :=
  Sync.refresh_elim target (K := fun answer s => w.gateways.get target = answer →
    s.Ends answering w Q) (fun _ rest => ends_read_bind (rest _ rfl) unread) missing found

/-- Ensuring ends as a creation does, as a refusal, or as the sync of a gateway with
records that agree. -/
theorem ends_ensure_of {config : Config} {settings : GatewaySettings}
    (unread : ∀ e, answering w (.gateways (.get target)) (.error e) w → Q (.error (.store e)) w)
    (missing : w.gateways.get target = none →
      (Sync.create config target settings).Ends answering w Q)
    (refused : ∀ existing violation, w.gateways.get target = some existing →
      existing.check settings = .error violation → Q (.error (.policy violation)) w)
    (agreed : ∀ existing, w.gateways.get target = some existing →
      existing.check settings = .ok () →
      (Sync.syncExisting target existing).Ends answering w Q) :
    (Sync.ensure config target settings).Ends answering w Q :=
  Sync.ensure_elim config target settings (K := fun answer s =>
    w.gateways.get target = answer → s.Ends answering w Q)
    (fun _ rest => ends_read_bind (rest _ rfl) unread) missing
    (fun existing violation checked found => refused existing violation found checked)
    fun existing checked found => agreed existing found checked

end Rules

-- ============================================================== writes

/-- A deletion of a gateway that nobody wants leaves it alone if it fails, and
else in line: gone, or going away. -/
theorem syncs_delete (found : w.gateways.get target = some existing)
    (unwanted : w.wanted target = []) (version : Option String) :
    let exchange := w.perform (.gateways (.delete target version))
    Syncs w exchange.2 target
      ∧ ∀ answer, exchange.1 = .ok answer → exchange.2.InLine target := by
  have stale : w.Stale target := ⟨existing, found, .inl unwanted⟩
  show Syncs w { w with gateways := (w.gateways.delete target version).2 } target
    ∧ ∀ answer, (w.gateways.delete target version).1 = .ok answer →
      Cluster.InLine { w with gateways := (w.gateways.delete target version).2 } target
  obtain ⟨⟨e, failed⟩, same⟩ | ⟨gateway, isStored, -, others, left⟩ :=
    w.gateways.delete_cases target version
  · rw [same, failed]
    exact ⟨.refl w target, nofun⟩
  · have touched := TouchesOnly.of_store others
    have inLine : Cluster.InLine
        { w with gateways := (w.gateways.delete target version).2 } target := by
      intro gateway' there
      rw [touched.wanted, unwanted]
      -- gone is in line, and so is marked where nobody wants it
      obtain ⟨-, gone⟩ | ⟨-, time, newVersion, marked⟩ := left
      · cases gone.symm.trans there
      · cases marked.symm.trans there
        exact .inr ⟨rfl, rfl⟩
    refine ⟨⟨touched, .inr ⟨stale, inLine, fun known gateway' found' there settings => ?_⟩⟩,
      fun _ _ => inLine⟩
    obtain ⟨-, gone⟩ | ⟨-, time, newVersion, marked⟩ := left
    · cases gone.symm.trans there
    · cases marked.symm.trans there
      cases found'.symm.trans isStored
      exact Object.check_congr settings rfl rfl

/-- A patch of the listeners leaves the gateway in line, or alone; one that
succeeds leaves the listeners that are wanted, and the records as they were. -/
theorem syncs_merge (found : w.gateways.get target = some existing)
    (differ : ¬ existing.spec.listeners.Perm (w.wanted target)) :
    let exchange := w.perform (.gateways (.merge target
      (Sync.listenersPatch existing (w.wanted target))))
    Syncs w exchange.2 target ∧ ∀ answer, exchange.1 = .ok answer →
      ∀ gateway, exchange.2.gateways.get target = some gateway →
        gateway.spec.listeners = w.wanted target
          ∧ ∀ settings, gateway.check settings = existing.check settings := by
  intro exchange
  have stale : w.Stale target := ⟨existing, found, .inr differ⟩
  have cases := w.gateways.merge_cases target (Sync.listenersPatch existing (w.wanted target))
  have reply : exchange.1 = (w.gateways.merge target
      (Sync.listenersPatch existing (w.wanted target))).1 := rfl
  have after : exchange.2 = { w with gateways := (w.gateways.merge target
      (Sync.listenersPatch existing (w.wanted target))).2 } := rfl
  -- what the store does with the patch is not looked at again
  generalize w.gateways.merge target
    (Sync.listenersPatch existing (w.wanted target)) = merged at cases reply after
  rw [reply, after]
  obtain ⟨⟨e, failed, left⟩, -⟩ | ⟨o, o', found', read, -, left⟩ := cases
  -- the patch has failed: the gateway is as it was, or another writer removed it
  · have touched : TouchesOnly w { w with gateways := merged.2 } target :=
      .of_store fun other differ => (left other).resolve_right fun gone => differ gone.1
    refine ⟨⟨touched, ?_⟩, fun answer ok => nomatch failed.symm.trans ok⟩
    obtain same | ⟨-, -, gone⟩ := left target
    · exact .inl same
    · exact .inr ⟨stale, fun gateway there => (nomatch gone.symm.trans there),
        fun _ gateway _ there => nomatch gone.symm.trans there⟩
  · cases found.symm.trans found'
    cases (ofJson?_listenersPatch existing (w.wanted target)).symm.trans read
    have touched : TouchesOnly w { w with gateways := merged.2 } target :=
      .of_store fun other differ => by
        rw [left other, Store.get_replace, if_neg (Ne.symm differ)]
    have stored : ∀ gateway, merged.2.get target = some gateway →
        gateway.spec.listeners = w.wanted target
          ∧ ∀ settings, gateway.check settings = existing.check settings := by
      intro gateway there
      rw [left target, Store.get_replace, if_pos rfl] at there
      split at there
      · cases there
      · cases there
        exact ⟨rfl, fun settings => Object.check_congr settings rfl rfl⟩
    refine ⟨⟨touched, .inr ⟨stale, fun gateway there => .inl ?_,
      fun known gateway found' there => ?_⟩⟩, fun _ _ => stored⟩
    · rw [(stored gateway there).1, touched.wanted]
    · cases found.symm.trans found'
      exact (stored gateway there).2

/-- A gateway as it was read is left alone, or brought in line; if it is
patched or found to be in line, the listeners are the wanted ones and the
records are what they were. -/
theorem ends_syncExisting (found : w.gateways.get target = some existing) :
    (Sync.syncExisting target existing).Ends mayFail w fun result after =>
      Syncs w after target ∧ ∀ outcome, result = .ok outcome →
        outcome = .deleted ∨ outcome = .absent
          ∨ ∀ gateway, after.gateways.get target = some gateway →
            gateway.spec.listeners.Perm (w.wanted target)
              ∧ ∀ settings, gateway.check settings = existing.check settings := by
  refine ends_syncExisting_of (fun e _ => ⟨.refl w target, nofun⟩) (fun unwanted => ?unwanted)
    (fun _ perm => ⟨.refl w target, fun _ _ => ?same⟩) fun _ differ => ?differ
  case unwanted =>
    have deleted := (syncs_delete found unwanted existing.resourceVersion).1
    -- of a deletion only these two outcomes are made
    have ended : ∀ (reply : Except StoreError Unit) (outcome : SyncOutcome),
        Sync.removed reply = .ok outcome → outcome = .deleted ∨ outcome = .absent := by
      intro reply outcome
      refine Sync.removed_elim reply (fun _ ok => ?_) (fun _ _ _ ok => ?_) (by simp)
      · exact .inl (Except.ok.inj ok).symm
      · exact .inr (Except.ok.inj ok).symm
    refine ends_request_mayFail.2 ⟨⟨deleted, fun outcome ok => ?_⟩, fun e =>
      ⟨.refl w target, fun outcome ok => ?_⟩⟩
    · exact (ended _ outcome ok).imp_right .inl
    · exact (ended _ outcome ok).imp_right .inl
  case same =>
    refine .inr (.inr fun gateway there => ?_)
    cases found.symm.trans there
    exact ⟨perm, fun settings => rfl⟩
  case differ =>
    obtain ⟨syncs, merged⟩ := syncs_merge found differ
    refine ends_request_mayFail.2 ⟨?_, fun e => ⟨.refl w target, nofun⟩⟩
    generalize w.perform (.gateways (.merge target
      (Sync.listenersPatch existing (w.wanted target)))) = exchange at syncs merged
    cases reply : exchange.1 with
    | error e => exact ⟨syncs, nofun⟩
    | ok answer =>
      refine ⟨syncs, fun outcome ok => .inr (.inr fun gateway there => ?_)⟩
      obtain ⟨listeners, records⟩ := merged answer reply gateway there
      exact ⟨listeners ▸ .refl _, records⟩

/-- A refresh leaves its gateway alone or in line, whatever fails. -/
theorem ends_refresh : (Sync.refresh target).Ends mayFail w fun _ after =>
    Syncs w after target :=
  ends_refresh_of (fun _ _ => .refl w target) (fun _ => .refl w target) fun _ found =>
    (ends_syncExisting found).mono fun _ _ ended => ended.1

-- ============================================================ ensuring

/-- The gateway as it is created for the settings, in some version. -/
def Cluster.Recorded (w : Cluster) (config : Config) (settings : GatewaySettings)
    (target : ObjectRef) (listeners : List Listener) : Prop :=
  ∃ version, w.gateways.get target
    = some ((Gateway.recording target settings config.gatewayClass listeners).withVersion version)

/-- A creation leaves the missing gateway missing, or makes it. -/
theorem recorded_create (config : Config) (settings : GatewaySettings)
    (listeners : List Listener) (missing : w.gateways.get target = none) :
    let after := (w.perform (.gateways (.create
      (Gateway.recording target settings config.gatewayClass listeners)))).2
    TouchesOnly w after target ∧ (after.gateways.get target = none
      ∨ after.Recorded config settings target listeners) := by
  intro after
  let gateway := Gateway.recording target settings config.gatewayClass listeners
  show TouchesOnly w { w with gateways := (w.gateways.create gateway).2 } target
    ∧ ((w.gateways.create gateway).2.get target = none ∨ ∃ version,
      (w.gateways.create gateway).2.get target = some (gateway.withVersion version))
  obtain ⟨-, same⟩ | ⟨-, -, made⟩ := w.gateways.create_cases gateway
  · exact ⟨.of_store fun other _ => same other, .inl ((same target).trans missing)⟩
  · refine ⟨.of_store fun other differ => ?_, .inr ⟨w.gateways.versionText, ?_⟩⟩
    · exact (made other).trans (if_neg (Ne.symm differ))
    · exact (made target).trans (if_pos rfl)

/-- A gateway that is missing stays missing, or is made with the listeners that
are wanted. -/
theorem ends_create (config : Config) (settings : GatewaySettings)
    (missing : w.gateways.get target = none) :
    (Sync.create config target settings).Ends mayFail w fun _ after =>
      TouchesOnly w after target ∧ (after.gateways.get target = none
        ∨ after.Recorded config settings target (w.wanted target)) := by
  have untouched : TouchesOnly w w target ∧ (w.gateways.get target = none
      ∨ w.Recorded config settings target (w.wanted target)) :=
    ⟨.refl w target, .inl missing⟩
  exact ends_create_of (fun _ _ => untouched) (fun _ => untouched) fun _ =>
    ends_request_mayFail.2
      ⟨recorded_create config settings (w.wanted target) missing, fun _ => untouched⟩

/-- Ensuring a gateway: it is left as it is, or brought in line if its records
agree with the settings; and if it is kept or made, it agrees with the settings
and has the listeners that are wanted. -/
theorem ends_ensure (config : Config) (settings : GatewaySettings) :
    (Sync.ensure config target settings).Ends mayFail w fun result after =>
      Ensures w after target settings
        ∧ ∀ outcome, result = .ok outcome →
          outcome = .deleted ∨ outcome = .absent
            ∨ ∀ gateway, after.gateways.get target = some gateway →
              gateway.spec.listeners.Perm (w.wanted target)
                ∧ gateway.check settings = .ok () := by
  refine ends_ensure_of (fun e _ => ⟨.refl w target settings, nofun⟩) (fun missing => ?missing)
    (fun _ _ _ _ => ⟨.refl w target settings, nofun⟩) fun existing found agrees => ?agreed
  case missing =>
    refine (ends_create config settings missing).mono fun result after ended => ?_
    obtain ⟨touched, made⟩ := ended
    -- made now: with the listeners that are wanted and the records of the settings
    have stored : ∀ gateway, after.gateways.get target = some gateway →
        gateway.spec.listeners = w.wanted target ∧ gateway.check settings = .ok () := by
      intro gateway there
      obtain missing | ⟨version, recorded⟩ := made
      · cases missing.symm.trans there
      · cases recorded.symm.trans there
        exact ⟨rfl, Gateway.check_recording _ _ _ _ _⟩
    have inLine : after.InLine target := by
      intro gateway there
      rw [(stored gateway there).1, touched.wanted]
      exact .inl (.refl _)
    refine ⟨⟨touched, .inr ⟨inLine, fun gateway there => nomatch missing.symm.trans there⟩⟩,
      fun outcome _ => ?_⟩
    refine .inr (.inr fun gateway there => ?_)
    obtain ⟨listeners, agrees⟩ := stored gateway there
    exact ⟨listeners ▸ .refl _, agrees⟩
  case agreed =>
    refine (ends_syncExisting found).mono fun result after left => ?_
    obtain ⟨syncs, ended⟩ := left
    -- there before: the check was passed, and a sync does not touch the records
    have agree : ∀ gateway, w.gateways.get target = some gateway →
        gateway.check settings = .ok () := by
      intro gateway there
      cases found.symm.trans there
      exact agrees
    refine ⟨⟨syncs.toTouchesOnly, syncs.change.imp_right fun amends => ⟨amends.inLine, agree⟩⟩,
      fun outcome ok => ?_⟩
    refine (ended outcome ok).imp_right (.imp_right fun stored gateway there => ?_)
    obtain ⟨perm, records⟩ := stored gateway there
    exact ⟨perm, (records settings).trans agrees⟩

-- ==================================================== without a failure

/-- When no call fails, the gateway is in line at the end. -/
theorem refresh_inLine : (Sync.refresh target).Ends succeeds w fun _ after =>
    after.InLine target := by
  have noError : ∀ {c : Call} {P : Prop} (e : StoreError), succeeds w c (.error e) w → P :=
    fun e failed => nomatch failed.2.choose_spec
  refine ends_refresh_of (fun e => noError e) (fun missing gateway there =>
    nomatch missing.symm.trans there) fun existing found => ?_
  refine ends_syncExisting_of (fun e => noError e) (fun unwanted => ?_) (fun _ perm => ?_)
    fun _ differ => ?_
  · exact ends_request_succeeds.2
      (syncs_delete found unwanted existing.resourceVersion).2
  · intro gateway there
    cases found.symm.trans there
    exact .inl perm
  · obtain ⟨syncs, merged⟩ := syncs_merge found differ
    refine ends_request_succeeds.2 fun answer ok gateway there => ?_
    rw [(merged answer ok gateway there).1, syncs.wanted]
    exact .inl (.refl _)

end SharedGateway
