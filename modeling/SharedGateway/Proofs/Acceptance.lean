/-
Which routes a gateway accepts.

# Refusal

A route of a configuration that was loaded always asks for an issuer and a zone: an
empty declaration counts as none, and a default that was loaded is not empty
(`Config.Sound.effective`). So a gateway without an issuer, or with the empty text
for one, accepts no route at all, and ensuring it ends at the check, after the one
call that has read the gateway (`run_ensure_refused`).

# Creation

A gateway that was created accepts the settings that it was created for and no others
(`Object.acceptsOnly_recording`). That a creation was reported is enough for the
gateway to be there, whoever wrote meanwhile (`acceptsOnly_of_created`): the creation
is the last call of the sync, so nobody writes after it, and what others did before
it does not matter to its answer. `disturbed` is the way of answering in which others
do as they like before each call; every run is answered so (`run_of_disturbed`), so
this needs no assumption about the cluster.

# In time

What a gateway accepts is told by its records alone, and these stay as long as the
gateway is there (`Object.AcceptsOnly.remains`). So it is kept along every trail of
works and of edits that spare gateways (`acceptsOnly_of_trail`), and by each single
call of the operator whoever writes between the calls (`acceptsOnly_of_call`).
-/
import SharedGateway.Proofs.Lineage
import SharedGateway.Proofs.Loading
import SharedGateway.Proofs.Runs

namespace SharedGateway

open Cluster (mayFail)
open Script

variable {config : Config} {settings wanted : GatewaySettings} {gateway gateway' : Gateway}
  {w : Cluster} {target : ObjectRef}

-- ============================================================ settings

theorem sound_of_load {env : Config.Environment} (loaded : Config.load env = .ok config) :
    config.Sound := by
  obtain ⟨accepted, describes⟩ := load_eq_ok_iff.1 loaded
  exact describes.sound accepted

/-- An empty declaration counts as none, so the default takes its place. -/
theorem getD_declared?_ne_empty {default : String} (some : default ≠ "")
    (annotations : Table String String) (key : String) :
    (RouteSettings.declared? annotations key).getD default ≠ "" := by
  cases declared : RouteSettings.declared? annotations key with
  | none => exact some
  | some text =>
    have kept := (Option.filter_eq_some_iff.1 declared).2
    simpa using kept

/-- Every route asks for an issuer and for a zone. -/
theorem Config.Sound.effective (sound : config.Sound) (route : Route) :
    (route.settings.effective config).issuer ≠ ""
      ∧ (route.settings.effective config).zone ≠ "" := by
  have text (field : String) (listed : field ∈ config.texts) : field ≠ "" :=
    (sound.texts field listed).1
  constructor
  · exact getD_declared?_ne_empty (text _ (by simp [Config.texts])) _ _
  · exact getD_declared?_ne_empty (text _ (by simp [Config.texts])) _ _

-- ============================================================= refusal

namespace Object

/-- The gateway records no issuer, or the empty text for one. -/
def LacksIssuer (gateway : Gateway) : Prop :=
  gateway.recordedIssuer? = none ∨ gateway.recordedIssuer? = some ""

/-- A gateway without an issuer disagrees about it with every route. -/
theorem LacksIssuer.check (lacks : gateway.LacksIssuer) (asks : settings.issuer ≠ "") :
    gateway.check settings = .error ⟨.clusterIssuer, "", settings.issuer⟩ := by
  have recorded : gateway.recordedIssuer?.getD "" = "" := by
    rcases lacks with none | empty
    · rw [none]
      rfl
    · rw [empty]
      rfl
  simp only [Object.check, recorded]
  exact if_pos (Ne.symm asks)

/-- The gateway accepts routes that ask for these settings, and no others. -/
def AcceptsOnly (gateway : Gateway) (settings : GatewaySettings) : Prop :=
  ∀ wanted, gateway.check wanted = .ok ()
    ↔ wanted.issuer = settings.issuer ∧ wanted.zone = settings.zone

/-- A gateway agrees if its issuer is the one, and its zone, if it has any. -/
theorem check_eq_ok_iff : gateway.check wanted = .ok ()
    ↔ gateway.recordedIssuer?.getD "" = wanted.issuer
      ∧ ∀ zone, gateway.recordedZone? = some zone → zone = wanted.zone := by
  unfold check
  by_cases issuer : gateway.recordedIssuer?.getD "" = wanted.issuer
  · cases recorded : gateway.recordedZone? with
    | none => simp [issuer]
    | some zone => by_cases same : zone = wanted.zone <;> simp [issuer, same]
  · simp [issuer]

/-- A gateway that records settings accepts them and no others, in any version. -/
theorem acceptsOnly_recording (target : ObjectRef) (settings : GatewaySettings)
    (className : String) (listeners : List Listener) (version : String) :
    ((Gateway.recording target settings className listeners).withVersion version).AcceptsOnly
      settings := by
  intro wanted
  rw [check_eq_ok_iff, @eq_comm _ wanted.issuer, @eq_comm _ wanted.zone]
  simp [recordedIssuer?, recordedZone?, annotated?, Gateway.recording, withVersion, Table.ofList,
    Table.find?_insert]

/-- What is left of a gateway accepts what the gateway did. -/
theorem AcceptsOnly.remains (h : gateway.AcceptsOnly settings)
    (isLeft : gateway.Remains gateway') : gateway'.AcceptsOnly settings := by
  have annotations : gateway'.metadata.annotations = gateway.metadata.annotations :=
    congrArg (·.metadata.annotations) isLeft.records
  have infrastructure : gateway'.spec.infrastructure = gateway.spec.infrastructure :=
    congrArg (·.spec.infrastructure) isLeft.records
  intro wanted
  rw [check_congr wanted annotations infrastructure]
  exact h wanted

end Object

/-- Whoever reads the gateway first finds it like this. -/
def Cluster.Finds (w : Cluster) (target : ObjectRef) (gateway : Gateway) : Prop :=
  (w.answer (.gateways (.get target))).reply = .ok (some gateway)

/-- Where nothing is planned, what is stored is found. -/
theorem Cluster.Unplanned.finds (unplanned : w.Unplanned)
    (there : w.gateways.get target = some gateway) : w.Finds target gateway := by
  unfold Finds
  rw [unplanned.answer]
  exact congrArg Except.ok there

/-- Ensuring a gateway that does not agree ends with the disagreement, after the read
that found it. -/
theorem run_ensure_refused (config : Config) {violation : PolicyViolation}
    (found : w.Finds target gateway) (refused : gateway.check settings = .error violation) :
    let run := (Sync.ensure config target settings).run w
    run.result = .error (.policy violation)
      ∧ run.moments.map (·.call) = [.gateways (.get target)] := by
  refine Sync.ensure_elim config target settings
    (K := fun answer s => answer = some gateway → s = .fail (.policy violation))
    (fun f rest => ?_) nofun (fun existing other checked isFound => ?_)
    fun existing agreed isFound => ?_
  · unfold Cluster.Finds at found
    unfold Gateways.get
    rw [lift_store, run_bind, run_mapError, run_request]
    simp only [Run.map, found, Except.mapError, rest (some gateway) rfl]
    exact ⟨rfl, rfl⟩
  · cases isFound
    cases checked.symm.trans refused
    rfl
  · cases isFound
    cases agreed.symm.trans refused

-- ============================================================ creation

/-- Others may do anything before the call, which is then answered by its store, or
fails without reaching it. -/
def Cluster.disturbed : Answering := fun _ c reply after =>
  ∃ met, mayFail met c reply after

open Cluster (disturbed)

/-- Every call is answered so, whatever is planned for it. -/
theorem Cluster.disturbed_answer (w : Cluster) (c : Call) :
    disturbed w c (w.answer c).reply (w.answer c).after := by
  unfold Cluster.answer
  obtain ⟨fault, met⟩ := w.disturb c.site
  cases fault with
  | none => exact ⟨met, .inl rfl⟩
  | some fault => exact ⟨met, .inr ⟨⟨_, rfl⟩, rfl⟩⟩

/-- Every run ends as it may where others do as they like. -/
theorem Script.run_of_disturbed {ε α : Type} {s : Script ε α}
    {Q : Except ε α → Cluster → Prop} (ends : s.Ends disturbed w Q) :
    Q (s.run w).result (s.run w).cluster := by
  induction s generalizing w with
  | done result => exact ends
  | call c next ih => exact ih _ (ends _ _ (w.disturbed_answer c))

/-- A sequence ends as demanded if its second part does, wherever the first one
leaves off. -/
theorem Script.ends_bind_of_rest {ε α β : Type} {answering : Answering} {s : Script ε α}
    {f : α → Script ε β} {Q : Except ε β → Cluster → Prop}
    (rest : ∀ a after, (f a).Ends answering after Q) (error : ∀ e after, Q (.error e) after) :
    (s >>= f).Ends answering w Q := by
  have first : s.Ends answering w fun _ _ => True := ends_of_forall fun _ _ => trivial
  exact first.bind (fun a after _ => rest a after) fun e after _ => error e after

/-- A gateway that is there is not created. -/
theorem ends_syncExisting_uncreated {answering : Answering} (target : ObjectRef)
    (existing : Gateway) : (Sync.syncExisting target existing).Ends answering w
      fun result _ => result ≠ .ok .created := by
  refine Sync.syncExisting_elim target existing
    (K := fun _ s => ∀ w, s.Ends answering w fun result _ => result ≠ .ok .created)
    (fun _ rest => ends_bind_of_rest rest nofun) (fun _ _ _ => ?_) (fun _ _ _ _ => nofun)
    fun _ _ _ _ => ends_bind_of_rest (fun _ _ => nofun) nofun
  exact ends_remove_iff.2 (ends_of_forall fun reply _ =>
    Sync.removed_elim reply (fun _ => nofun) (fun _ _ _ => nofun) fun _ _ _ => nofun)

/-- A creation that its store reports was made. -/
theorem recorded_of_performed {listeners : List Listener} {answer : Gateway}
    (performed : (w.perform (.gateways (.create
      (Gateway.recording target settings config.gatewayClass listeners)))).1 = .ok answer) :
    (w.perform (.gateways (.create
      (Gateway.recording target settings config.gatewayClass listeners)))).2.Recorded config
        settings target listeners := by
  let gateway := Gateway.recording target settings config.gatewayClass listeners
  have performed : (w.gateways.create gateway).1 = .ok answer := performed
  obtain ⟨⟨e, failed⟩, -⟩ | ⟨-, -, stored⟩ := w.gateways.create_cases gateway
  · cases failed.symm.trans performed
  · exact ⟨w.gateways.versionText, (stored target).trans (if_pos rfl)⟩

/-- The creation is the last call of all, so nobody writes after it. -/
theorem ends_create_created (config : Config) (settings : GatewaySettings) :
    (Sync.create config target settings).Ends disturbed w fun result after =>
      result = .ok .created → ∃ listeners, after.Recorded config settings target listeners := by
  refine Sync.create_elim config target settings (K := fun _ s => ∀ w, s.Ends disturbed w
      fun result after => result = .ok .created →
        ∃ listeners, after.Recorded config settings target listeners)
    (fun _ rest => ends_bind_of_rest rest nofun) (fun _ _ _ => nofun) fun aggregation _ _ => ?_
  refine ends_wrote_iff.2 ?_
  rintro reply left ⟨met, performed | ⟨⟨e, rfl⟩, rfl⟩⟩
  · obtain ⟨rfl, rfl⟩ := Cluster.performs_iff.1 performed
    cases reply : (met.perform (.gateways (.create (Gateway.recording target settings
      config.gatewayClass aggregation.listeners)))).1 with
    | error e => nofun
    | ok answer => exact fun _ => ⟨aggregation.listeners, recorded_of_performed reply⟩
  · nofun

/-- Ensuring a gateway reports a creation only where the gateway was made. -/
theorem ends_ensure_created (config : Config) (settings : GatewaySettings) :
    (Sync.ensure config target settings).Ends disturbed w fun result after =>
      result = .ok .created → ∃ listeners, after.Recorded config settings target listeners := by
  refine Sync.ensure_elim config target settings (K := fun _ s => ∀ w, s.Ends disturbed w
      fun result after => result = .ok .created →
        ∃ listeners, after.Recorded config settings target listeners)
    (fun _ rest => ends_bind_of_rest rest nofun) (fun _ => ends_create_created config settings)
    (fun _ _ _ _ => nofun) fun existing _ _ => ?_
  exact (ends_syncExisting_uncreated target existing).mono fun _ _ uncreated created =>
    absurd created uncreated

/-- A gateway whose creation was reported is there as it was created. -/
theorem recorded_of_created
    (created : ((Sync.ensure config target settings).run w).result = .ok .created) :
    ∃ listeners, ((Sync.ensure config target settings).run w).cluster.Recorded config settings
      target listeners :=
  run_of_disturbed (ends_ensure_created config settings) created

/-- A gateway whose creation was reported accepts what it was created for. -/
theorem acceptsOnly_of_created
    (created : ((Sync.ensure config target settings).run w).result = .ok .created) :
    ∃ gateway, ((Sync.ensure config target settings).run w).cluster.gateways.get target
        = some gateway ∧ gateway.AcceptsOnly settings := by
  obtain ⟨listeners, version, stored⟩ := recorded_of_created created
  exact ⟨_, stored, Object.acceptsOnly_recording target settings _ listeners version⟩

-- ============================================================= in time

/-- Whatever the operator is asked to do, all calls that it makes are permitted. -/
theorem Work.permitted (config : Config) (w : Cluster) (work : Work) :
    ∀ m ∈ (work.run config w).moments, m.call.Permitted config fun _ _ => True := by
  cases work with
  | ensure target settings => exact (makes_ensure trivial).moments w
  | refresh target => exact (makes_refresh target).moments w
  | reconcile key => exact permitted_reconcile fun _ _ _ _ => trivial
  | edit change =>
    intro m made
    cases made

/-- No call of the operator changes what a gateway accepts. -/
theorem acceptsOnly_of_call {work : Work} {m : Moment}
    (made : m ∈ (work.run config w).moments) (there : m.met.gateways.get target = some gateway)
    (left : (m.met.perform m.call).2.gateways.get target = some gateway')
    (accepts : gateway.AcceptsOnly settings) : gateway'.AcceptsOnly settings := by
  have passes := Cluster.passes_perform m.met (work.permitted config w m made) target
  rw [there, left] at passes
  cases passes with
  | remains _ _ isLeft => exact accepts.remains isLeft

/-- As long as it is there, through works of the operator and edits by others that
spare gateways, a gateway accepts what it accepted at first. -/
theorem acceptsOnly_of_trail (spared : w.SparesGateways) {works : List Work}
    (sparing : ∀ work ∈ works, work.SparesGateways) {stretch : List Gateway}
    (always : stretch.map some <+: (w :: w.trail config works).map (·.gateways.get target))
    (there : w.gateways.get target = some gateway) (accepts : gateway.AcceptsOnly settings) :
    ∀ gateway ∈ stretch, gateway.AcceptsOnly settings := by
  have chain : List.IsChain (Cluster.Passes config fun _ _ => True) (w :: w.trail config works) :=
    Cluster.passes_trail spared sparing
  have remain := pairwise_remains chain always.isInfix
  cases stretch with
  | nil => simp
  | cons first rest =>
    rw [List.map_cons, List.map_cons, List.cons_prefix_cons, there] at always
    obtain rfl : first = gateway := Option.some.inj always.1
    refine List.forall_mem_cons.2 ⟨accepts, fun later listed => ?_⟩
    exact accepts.remains (List.rel_of_pairwise_cons remain listed)

/-- Under a configuration that was loaded every route asks for an issuer and a zone,
so that a gateway without an issuer accepts no route: ensuring it reports that, and
does no more than read the gateway. A gateway that was created for a route accepts
the routes with the issuer and the zone of that route and no others, and does so as
long as it is there, whatever the operator does and whatever others do to routes. No
call of the operator changes what a gateway accepts, whoever writes between them. -/
theorem gateway_accepts_what_it_records {lookup : String → Option String}
    (loaded : Config.load (fun var => lookup var.name) = .ok config) :
    (∀ route : Route,
      let settings := route.settings.effective config
      settings.issuer ≠ "" ∧ settings.zone ≠ ""
        ∧ ∀ gateway : Gateway, gateway.LacksIssuer →
          gateway.check settings = .error ⟨.clusterIssuer, "", settings.issuer⟩
            ∧ ∀ w target, Cluster.Finds w target gateway →
              let run := (Sync.ensure config target settings).run w
              run.result = .error (.policy ⟨.clusterIssuer, "", settings.issuer⟩)
                ∧ run.moments.map (·.call) = [.gateways (.get target)])
    ∧ (∀ (route : Route) (w : Cluster) (target : ObjectRef),
      let settings := route.settings.effective config
      let made := (Sync.ensure config target settings).run w
      made.result = .ok .created →
        (∃ gateway, made.cluster.gateways.get target = some gateway
          ∧ gateway.AcceptsOnly settings)
        ∧ (w.SparesGateways → ∀ works, (∀ work ∈ works, Work.SparesGateways work) →
          ∀ stretch : List Gateway,
            stretch.map some <+:
              (made.cluster :: made.cluster.trail config works).map (·.gateways.get target) →
            ∀ gateway ∈ stretch, gateway.AcceptsOnly settings))
    ∧ ∀ (work : Work) (w : Cluster), ∀ m ∈ (work.run config w).moments,
      ∀ target gateway gateway' settings, m.met.gateways.get target = some gateway →
        (m.met.perform m.call).2.gateways.get target = some gateway' →
        gateway.AcceptsOnly settings → gateway'.AcceptsOnly settings := by
  have sound := sound_of_load loaded
  refine ⟨?_, ?_, fun _ _ _ made _ _ _ _ => acceptsOnly_of_call made⟩
  · intro route settings
    obtain ⟨issuer, zone⟩ := sound.effective route
    refine ⟨issuer, zone, fun gateway lacks => ?_⟩
    have refused := lacks.check issuer
    exact ⟨refused, fun w target found => run_ensure_refused config found refused⟩
  · intro route w target settings made created
    -- the trail starts in the cluster that the creation has left
    obtain ⟨gateway, there, accepts⟩ := acceptsOnly_of_created created
    refine ⟨⟨gateway, there, accepts⟩, fun spared works sparing stretch always => ?_⟩
    exact acceptsOnly_of_trail (Script.spares_run spared) sparing always there accepts

/-- The default issuer between blanks. -/
def issuerSettings : String → Option String :=
  fun name => [("DEFAULT_CLUSTER_ISSUER", " letsencrypt\t")].lookup name

/-- What `issuerSettings` ask for. -/
def issuerConfig : Config where
  defaultIssuer := "letsencrypt"

/-- A gateway that records the empty text as its issuer. -/
def issuerless : Gateway :=
  Gateway.recording ⟨"infra", "edge"⟩ ⟨"", "hnet-private"⟩ "eg" []

/-- After its creation the gateway of `founding` is refreshed, which fails, and is
ensured for a route that declares nothing. -/
def furtherWorks : List Work :=
  [.edit (.routes (.put (founding.declaring "b.example.com"))),
    .refresh ⟨"infra", "edge"⟩,
    .ensure ⟨"infra", "edge"⟩ ⟨"letsencrypt", "hnet-private"⟩]

/-- A route that declares the empty issuer is held to the default, which the gateway
of `issuerless` does not have. The gateway that is made for `founding` accepts the
default issuer, and no other zone, even once it has another listener. -/
theorem issuerless_gateway_is_refused :
    ((Sync.ensure issuerConfig ⟨"infra", "edge"⟩ ⟨"letsencrypt", "hnet-private"⟩).run
        { gateways := { objects := .ofList [(⟨"infra", "edge"⟩, issuerless)] } }).result
      = .error (.policy ⟨.clusterIssuer, "", "letsencrypt"⟩)
    ∧ (founded "b.example.com" "2").check ⟨"letsencrypt", "hnet-private"⟩ = .ok ()
    ∧ (founded "b.example.com" "2").check ⟨"letsencrypt", "hnet-public"⟩ ≠ .ok () := by
  have loaded : Config.load (fun var => issuerSettings var.name) = .ok issuerConfig := by decide
  obtain ⟨refuses, accepts, -⟩ := gateway_accepts_what_it_records loaded
  constructor
  · have asks : (Route.optedIn ⟨"apps", "web"⟩ ⟨"infra", "edge"⟩ "a.example.com"
        [(AnnotationKey.clusterIssuer, "")] []).settings.effective issuerConfig
        = ⟨"letsencrypt", "hnet-private"⟩ := by decide
    have refused := (refuses (Route.optedIn ⟨"apps", "web"⟩ ⟨"infra", "edge"⟩ "a.example.com"
      [(AnnotationKey.clusterIssuer, "")] [])).2.2 issuerless (.inr (by decide))
    rw [asks] at refused
    exact (refused.2 _ _ (Cluster.Unplanned.finds (fun _ => rfl) rfl)).1
  · have asks : (founding.declaring "a.example.com").settings.effective issuerConfig
        = ⟨"letsencrypt", "hnet-private"⟩ := by decide
    have made := accepts (founding.declaring "a.example.com") founding ⟨"infra", "edge"⟩
    rw [asks] at made
    have accepted := (made (by decide +kernel)).2 founding_spares furtherWorks
      (by simp [furtherWorks, Work.SparesGateways, Edit.SparesGateways])
      (List.replicate 9 (founded "a.example.com" "1") ++ [founded "b.example.com" "2"])
      (by decide +kernel) _ (List.mem_append_right _ List.mem_cons_self)
    exact ⟨(accepted _).2 ⟨rfl, rfl⟩, fun other => absurd ((accepted _).1 other).2 (by decide)⟩

end SharedGateway
