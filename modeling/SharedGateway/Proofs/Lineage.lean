/-
What a gateway keeps as long as it is there.

# One step

Whatever the operator does, however its calls fail and whatever others do to routes
meanwhile, one step of a cluster leaves a gateway in place with its records, removes
it, or creates one that was not there (`Gateway.Passes`). A step is a call of the
operator, which may do no more than it is permitted (`Call.Permitted`), or an edit
that spares gateways. The patch of a step may have been made from another gateway, or
from an older state of this one; it still changes nothing but the listeners and the
version (`Store.passes_merge`), so no assumption about what was read is needed, and
none about which calls go through.

# Runs and trails

A run is a chain of such steps (`Script.passes_run`), by induction on the script: a
call meets the gateways as they were and then does what its store does, or nothing.
Works of the operator and edits by others follow each other, each starting where the
one before has ended, so a trail of works is a chain too (`Cluster.passes_trail`).

# A stretch in which the gateway is always there

Along a stretch of the trail in which the gateway is always there, no step removes it
and none creates it, so every step leaves what may be left of it, and that relation
is transitive (`Object.Remains`). So between any two clusters of the stretch nothing
has changed but its listeners, its version and the mark of a deletion
(`pairwise_remains`, `gateways_keep_their_records`). The statement is about every
stretch, and a gateway that was removed and created again has two.
-/
import Mathlib.Data.List.Chain
import SharedGateway.Proofs.Calls
import SharedGateway.Proofs.Codec.Patches
import SharedGateway.Proofs.Event

namespace SharedGateway

open Script

-- ============================================================= records

namespace Object

/-- The gateway without what an operation may change of it. -/
def records (gateway : Gateway) : Gateway where
  metadata := { gateway.metadata with resourceVersion := none, deletionTimestamp := none }
  spec := { gateway.spec with listeners := [] }

/-- The second is what may be left of the first, as long as it is there. -/
structure Remains (gateway gateway' : Gateway) : Prop where
  records : gateway'.records = gateway.records
  mark : gateway'.metadata.deletionTimestamp = gateway.metadata.deletionTimestamp
    ∨ (gateway.metadata.deletionTimestamp = none
      ∧ gateway'.metadata.deletionTimestamp = some Store.deletionTime)

variable {gateway gateway' gateway'' : Gateway}

theorem Remains.refl (gateway : Gateway) : gateway.Remains gateway :=
  ⟨rfl, .inl rfl⟩

/-- What is left of what is left is left. A mark that was set is not set anew. -/
theorem Remains.trans (h : gateway.Remains gateway') (h' : gateway'.Remains gateway'') :
    gateway.Remains gateway'' where
  records := h'.records.trans h.records
  mark := by
    rcases h.mark with same | ⟨unmarked, marked⟩
    · rcases h'.mark with same' | ⟨unmarked', marked'⟩
      · exact .inl (same'.trans same)
      · exact .inr ⟨same.symm.trans unmarked', marked'⟩
    · rcases h'.mark with same' | ⟨unmarked', -⟩
      · exact .inr ⟨unmarked, same'.trans marked⟩
      · cases marked.symm.trans unmarked'

/-- The two are written alike, but for the version, the mark of a deletion and the
listeners. -/
structure WrittenAlike (gateway gateway' : Gateway) : Prop where
  metadata : ∀ name, "resourceVersion" ≠ name → "deletionTimestamp" ≠ name →
    gateway'.metadata.toJson.get? name = gateway.metadata.toJson.get? name
  spec : ∀ name, "listeners" ≠ name →
    gateway'.spec.toJson.get? name = gateway.spec.toJson.get? name

/-- The records are written as the gateway, but for what an operation may change. -/
theorem writtenAlike_records (gateway : Gateway) : gateway.WrittenAlike gateway.records where
  metadata name version mark := by
    simp [records, Metadata.toJson, version, mark]
  spec name listeners := by
    simp [records, GatewaySpec.toJson, listeners]

/-- What is left of a gateway is written like it. -/
theorem Remains.writtenAlike (h : gateway.Remains gateway') : gateway.WrittenAlike gateway' where
  metadata name version mark := by
    have blank := (writtenAlike_records gateway).metadata name version mark
    have blank' := (writtenAlike_records gateway').metadata name version mark
    rw [← blank, ← blank', h.records]
  spec name listeners := by
    have blank := (writtenAlike_records gateway).spec name listeners
    have blank' := (writtenAlike_records gateway').spec name listeners
    rw [← blank, ← blank', h.records]

end Object

-- ================================================================ steps

section Step

variable {config : Config} {asked : ObjectRef → GatewaySettings → Prop} {target : ObjectRef}

/-- What one step makes of a gateway, or of none. -/
inductive Gateway.Passes (config : Config) (asked : ObjectRef → GatewaySettings → Prop)
    (target : ObjectRef) : Option Gateway → Option Gateway → Prop
  | absent : Passes config asked target none none
  | remains (gateway gateway' : Gateway) (isLeft : gateway.Remains gateway') :
    Passes config asked target (some gateway) (some gateway')
  | removed (gateway : Gateway) : Passes config asked target (some gateway) none
  | created (settings : GatewaySettings) (listeners : List Listener) (version : String)
    (isAsked : asked target settings) :
    Passes config asked target none
      (some ((Gateway.recording target settings config.gatewayClass listeners).withVersion version))

/-- A gateway passes where nothing happens. -/
theorem Gateway.passes_refl (gateway : Option Gateway) :
    Gateway.Passes config asked target gateway gateway := by
  cases gateway with
  | none => exact .absent
  | some gateway => exact .remains gateway gateway (.refl gateway)

/-- A request that changes what is stored under one key passes every gateway if it
passes that one. -/
theorem Store.passes_at {s s' : Store GatewaySpec} {key : ObjectRef} {left : Option Gateway}
    (after : s'.get target = if key = target then left else s.get target)
    (own : Gateway.Passes config asked key (s.get key) left) :
    Gateway.Passes config asked target (s.get target) (s'.get target) := by
  rw [after]
  by_cases same : key = target
  · subst same
    rw [if_pos rfl]
    exact own
  · rw [if_neg same]
    exact Gateway.passes_refl _

/-- A gateway that is replaced by what is left of it stays, with a new version, or
is removed. -/
theorem Store.passes_replace {s : Store GatewaySpec} {key : ObjectRef} {gateway gateway' : Gateway}
    (found : s.get key = some gateway) (isLeft : gateway.Remains gateway') :
    Gateway.Passes config asked target (s.get target) ((s.replace key gateway').get target) := by
  refine Store.passes_at (s.get_replace key target gateway') ?_
  rw [found]
  split
  · exact .removed gateway
  · exact .remains gateway _ (isLeft.trans ⟨rfl, .inl rfl⟩)

/-- A creation makes a gateway only where there is none. -/
theorem Store.passes_create (s : Store GatewaySpec) {other : ObjectRef}
    {settings : GatewaySettings} (listeners : List Listener) (isAsked : asked other settings) :
    Gateway.Passes config asked target (s.get target)
      ((s.create (Gateway.recording other settings config.gatewayClass listeners)).2.get
        target) := by
  obtain ⟨-, same⟩ | ⟨free, -, after⟩ :=
    s.create_cases (Gateway.recording other settings config.gatewayClass listeners)
  · rw [same target]
    exact Gateway.passes_refl _
  · refine Store.passes_at (after target) ?_
    rw [free]
    exact .created settings listeners s.versionText isAsked

/-- The patch may have been made from another gateway, or from an older state of
this one. -/
theorem Store.passes_merge (s : Store GatewaySpec) (key : ObjectRef) (read : Gateway)
    (listeners : List Listener) :
    Gateway.Passes config asked target (s.get target)
      ((s.merge key (Sync.listenersPatch read listeners)).2.get target) := by
  obtain ⟨⟨e, -, left⟩, -⟩ | ⟨gateway, made, found, isRead, -, after⟩ :=
    s.merge_cases key (Sync.listenersPatch read listeners)
  · rcases left target with same | ⟨-, -, gone⟩
    · rw [same]
      exact Gateway.passes_refl _
    · rw [gone]
      cases s.get target with
      | none => exact .absent
      | some gateway => exact .removed gateway
  · cases (ofJson?_listenersPatch_of gateway read listeners).symm.trans isRead
    rw [after target]
    exact Store.passes_replace found ⟨rfl, .inl rfl⟩

/-- A deletion marks the gateway or removes it. -/
theorem Store.passes_delete (s : Store GatewaySpec) (key : ObjectRef) (version : Option String) :
    Gateway.Passes config asked target (s.get target) ((s.delete key version).2.get target) := by
  obtain same | ⟨gateway, found, ⟨-, erased⟩ | ⟨-, unmarked, kept⟩⟩ := s.delete_left key version
  · rw [same]
    exact Gateway.passes_refl _
  · rw [erased]
    refine Store.passes_at (Store.get_of_erased rfl target) ?_
    rw [found]
    exact .removed gateway
  · rw [kept]
    refine Store.passes_at (s.get_keep key target _) ?_
    rw [found]
    exact .remains gateway _ ⟨rfl, .inr ⟨unmarked, rfl⟩⟩

/-- One step leaves every gateway with its records, or removes it, or creates it
from settings that were asked for. -/
def Cluster.Passes (config : Config) (asked : ObjectRef → GatewaySettings → Prop)
    (w after : Cluster) : Prop :=
  ∀ target, Gateway.Passes config asked target (w.gateways.get target) (after.gateways.get target)

/-- What leaves all gateways as they are is such a step. -/
theorem Cluster.passes_of_same {w after : Cluster}
    (same : after.gateways.get = w.gateways.get) : w.Passes config asked after := by
  intro target
  rw [same]
  exact Gateway.passes_refl _

/-- A permitted call is such a step. -/
theorem Cluster.passes_perform (w : Cluster) {c : Call} (permitted : c.Permitted config asked) :
    w.Passes config asked (w.perform c).2 := by
  intro target
  cases permitted with
  | routes request => exact Gateway.passes_refl _
  | read other => exact Gateway.passes_refl _
  | create other settings listeners isAsked => exact w.gateways.passes_create listeners isAsked
  | merge other read listeners => exact w.gateways.passes_merge other read listeners
  | delete other version => exact w.gateways.passes_delete other version

end Step

-- =============================================================== others

/-- The edit leaves gateways alone. It may do anything to routes, and prepare the
store of gateways to fail. -/
def Edit.SparesGateways : Edit → Prop
  | .routes _ => True
  | .gateways (.request _) => False
  | .gateways (.put _) => False
  | .gateways (.queueConflicts _) => True
  | .gateways .failNextCreate => True
  | .gateways .vanishBeforeMerge => True

namespace Cluster

variable {w : Cluster}

/-- An edit that spares gateways changes none. -/
theorem get_edit {edit : Edit} (spares : edit.SparesGateways) :
    (w.edit edit).gateways.get = w.gateways.get := by
  cases edit with
  | routes edit => rfl
  | gateways edit => cases edit <;> first | rfl | cases spares

/-- Whoever writes while a call is made leaves gateways alone. -/
def SparesGateways (w : Cluster) : Prop :=
  ∀ site, ∀ d ∈ w.plans site, ∀ edit ∈ d.before, edit.SparesGateways

theorem plans_edit (w : Cluster) (edit : Edit) : (w.edit edit).plans = w.plans := by
  cases edit <;> rfl

/-- Neither do several. -/
theorem get_foldl_edit {edits : List Edit} (spare : ∀ edit ∈ edits, edit.SparesGateways) :
    (edits.foldl Cluster.edit w).gateways.get = w.gateways.get
      ∧ (edits.foldl Cluster.edit w).plans = w.plans := by
  induction edits generalizing w with
  | nil => exact ⟨rfl, rfl⟩
  | cons edit rest ih =>
    obtain ⟨gateways, plans⟩ :=
      ih (w := w.edit edit) fun other later => spare other (List.mem_cons_of_mem _ later)
    exact ⟨gateways.trans (get_edit (spare edit List.mem_cons_self)),
      plans.trans (w.plans_edit edit)⟩

/-- A call meets the gateways as they were, and does what its store does, or
nothing. -/
theorem SparesGateways.answer (h : w.SparesGateways) (c : Call) :
    (w.answer c).met.gateways.get = w.gateways.get
      ∧ ((w.answer c).after = (w.answer c).met
        ∨ (w.answer c).after = ((w.answer c).met.perform c).2)
      ∧ (w.answer c).after.SparesGateways := by
  unfold Cluster.answer disturb
  cases planned : w.plans c.site with
  | nil =>
    refine ⟨rfl, .inr rfl, fun site d member => ?_⟩
    exact h site d (plans_perform w c ▸ member)
  | cons next rest =>
    obtain ⟨before, fault⟩ := next
    have spare : ∀ edit ∈ before, edit.SparesGateways :=
      h c.site ⟨before, fault⟩ (planned ▸ List.mem_cons_self)
    obtain ⟨gateways, plans⟩ := get_foldl_edit (w := w.plan c.site rest) spare
    have spares : SparesGateways (before.foldl Cluster.edit (w.plan c.site rest)) := by
      intro site d member
      rw [plans] at member
      exact h site d (mem_plans_of_rest planned member)
    cases fault with
    | none =>
      refine ⟨gateways, .inr rfl, fun site d member => ?_⟩
      exact spares site d (plans_perform _ c ▸ member)
    | some fault => exact ⟨gateways, .inl rfl, spares⟩

end Cluster

-- ================================================================= runs

/-- The clusters of a run: what each call met, and what the last one left. -/
def Run.clusters {α : Type} (r : Run α) : List Cluster :=
  r.moments.map (·.met) ++ [r.cluster]

theorem Run.clusters_preceded {α : Type} (r : Run α) (m : Moment) :
    (r.preceded [m]).clusters = m.met :: r.clusters := rfl

/-- Plans that spare gateways leave plans that do. -/
theorem Script.spares_run {ε α : Type} {s : Script ε α} {w : Cluster} (spared : w.SparesGateways) :
    (s.run w).cluster.SparesGateways := by
  induction s generalizing w with
  | done result => exact spared
  | call c next ih => exact ih _ (spared.answer c).2.2

/-- In a run of permitted calls every step is one that gateways pass, from
whatever cluster the run was come to by such a step. -/
theorem Script.passes_run {ε α : Type} {config : Config}
    {asked : ObjectRef → GatewaySettings → Prop} {s : Script ε α} {w earlier : Cluster}
    (spared : w.SparesGateways)
    (permitted : ∀ m ∈ (s.run w).moments, m.call.Permitted config asked)
    (passes : earlier.Passes config asked w) :
    List.IsChain (Cluster.Passes config asked) (earlier :: (s.run w).clusters) := by
  induction s generalizing w earlier with
  | done result => exact List.isChain_cons_cons.2 ⟨passes, .singleton _⟩
  | call c next ih =>
    obtain ⟨same, after, spared'⟩ := spared.answer c
    have met : earlier.Passes config asked (w.answer c).met := by
      intro target
      rw [same]
      exact passes target
    have left : (w.answer c).met.Passes config asked (w.answer c).after := by
      rcases after with kept | performed
      · rw [kept]
        exact Cluster.passes_of_same rfl
      · rw [performed]
        exact Cluster.passes_perform _ (permitted _ List.mem_cons_self)
    show List.IsChain _ (earlier :: (Run.preceded ((next _).run _) [_]).clusters)
    rw [Run.clusters_preceded]
    refine List.isChain_cons_cons.2 ⟨met, ih _ spared' (fun m later => ?_) left⟩
    exact permitted m (List.mem_cons_of_mem _ later)

-- ================================================================ works

/-- What may be done in a cluster. -/
inductive Work where
  | ensure (target : ObjectRef) (settings : GatewaySettings)
  | refresh (target : ObjectRef)
  | reconcile (key : ObjectRef)
  /-- An edit by others. -/
  | edit (change : Edit)

namespace Work

/-- What is done, and the calls that it makes; an edit makes none. -/
def run (config : Config) (w : Cluster) : Work → Run Unit
  | .ensure target settings => ((Sync.ensure config target settings).run w).map fun _ => ()
  | .refresh target => ((Sync.refresh target).run w).map fun _ => ()
  | .reconcile key => ((SharedGateway.reconcile config key).run w).map fun _ => ()
  | .edit change => ⟨(), w.edit change, []⟩

/-- The work may create a gateway under the key for the settings: those that it
is given, or those of the route that it reads, if the route attaches there. -/
def Asks (config : Config) (w : Cluster) (target : ObjectRef) (settings : GatewaySettings) :
    Work → Prop
  | .ensure target' settings' => target' = target ∧ settings' = settings
  | .refresh _ => False
  | .reconcile key => ∃ route, (w.answer (.routes (.get key))).reply = .ok (some route)
    ∧ route.parent? = some target ∧ route.settings.effective config = settings
  | .edit _ => False

/-- A work of the operator writes gateways, an edit by others does not. -/
def SparesGateways : Work → Prop
  | .edit change => change.SparesGateways
  | _ => True

variable {config : Config} {w : Cluster} {work : Work}

/-- After a work of the operator, or an edit that spares gateways, the plans spare them
still. -/
theorem spares_run (spared : w.SparesGateways) (sparing : work.SparesGateways) :
    (work.run config w).cluster.SparesGateways := by
  cases work with
  | ensure target settings => exact Script.spares_run spared
  | refresh target => exact Script.spares_run spared
  | reconcile key => exact Script.spares_run spared
  | edit change =>
    intro site d member
    exact spared site d (w.plans_edit change ▸ member)

/-- Every step of a work is one that gateways pass. -/
theorem passes_run {asked : ObjectRef → GatewaySettings → Prop} (spared : w.SparesGateways)
    (sparing : work.SparesGateways)
    (isAsked : ∀ target settings, work.Asks config w target settings → asked target settings) :
    List.IsChain (Cluster.Passes config asked) (w :: (work.run config w).clusters) := by
  have start : w.Passes config asked w := Cluster.passes_of_same rfl
  cases work with
  | ensure target settings =>
    exact Script.passes_run spared
      ((makes_ensure (isAsked target settings ⟨rfl, rfl⟩)).moments w) start
  | refresh target => exact Script.passes_run spared ((makes_refresh target).moments w) start
  | reconcile key =>
    refine Script.passes_run spared (permitted_reconcile fun route current read parent => ?_) start
    exact isAsked current _ ⟨route, read, parent, rfl⟩
  | edit change =>
    exact List.isChain_cons_cons.2 ⟨Cluster.passes_of_same (Cluster.get_edit sparing), .singleton _⟩

end Work

namespace Cluster

variable {config : Config} {w : Cluster} {works : List Work}

/-- The cluster after works, one after the other. -/
def worked (config : Config) (w : Cluster) (works : List Work) : Cluster :=
  works.foldl (fun w work => (work.run config w).cluster) w

/-- The clusters that works go through, after the one that they start in. -/
def trail (config : Config) (w : Cluster) : List Work → List Cluster
  | [] => []
  | work :: rest =>
    (work.run config w).clusters ++ trail config (work.run config w).cluster rest

/-- So they do after several. -/
theorem spares_worked (spared : w.SparesGateways)
    (sparing : ∀ work ∈ works, work.SparesGateways) : (w.worked config works).SparesGateways := by
  induction works generalizing w with
  | nil => exact spared
  | cons work rest ih =>
    exact ih (Work.spares_run spared (sparing work List.mem_cons_self)) fun other later =>
      sparing other (List.mem_cons_of_mem _ later)

/-- Every step of a trail is one that gateways pass. -/
theorem passes_trail (spared : w.SparesGateways) (sparing : ∀ work ∈ works, work.SparesGateways) :
    List.IsChain (Cluster.Passes config fun _ _ => True) (w :: w.trail config works) := by
  induction works generalizing w with
  | nil => exact .singleton w
  | cons work rest ih =>
    have sparingFirst := sparing work List.mem_cons_self
    have first : List.IsChain (Passes config fun _ _ => True) (w :: (work.run config w).clusters) :=
      Work.passes_run spared sparingFirst fun _ _ _ => trivial
    have sparedNext : (work.run config w).cluster.SparesGateways :=
      Work.spares_run spared sparingFirst
    have later := ih sparedNext fun other later => sparing other (List.mem_cons_of_mem _ later)
    -- the cluster in which the first work ends is the one that the others start in
    have split : w :: w.trail config (work :: rest)
        = (w :: (work.run config w).moments.map (·.met))
          ++ (work.run config w).cluster :: trail config (work.run config w).cluster rest := by
      simp [trail, Run.clusters]
    rw [split]
    exact List.isChain_split.2 ⟨first, later⟩

end Cluster

instance : Trans Object.Remains Object.Remains Object.Remains := ⟨.trans⟩

section
variable {config : Config} {asked : ObjectRef → GatewaySettings → Prop} {trail : List Cluster}

/-- What is stored under one key, in one cluster after the other. -/
theorem isChain_gateways (chain : trail.IsChain (Cluster.Passes config asked))
    (target : ObjectRef) :
    List.IsChain (Gateway.Passes config asked target) (trail.map (·.gateways.get target)) :=
  (List.isChain_map _).2 (chain.imp fun _ _ passes => passes target)

/-- Where every step is one that gateways pass, a gateway that is always there is
always what is left of what it was. -/
theorem pairwise_remains (chain : trail.IsChain (Cluster.Passes config asked))
    {target : ObjectRef} {stretch : List Gateway}
    (always : stretch.map some <:+: trail.map (·.gateways.get target)) :
    stretch.Pairwise Object.Remains := by
  have steps := isChain_gateways chain target
  have along := steps.infix always
  have stays := (List.isChain_map some).1 along
  refine List.isChain_iff_pairwise.1 (stays.imp fun gateway gateway' passes => ?_)
  cases passes with
  | remains _ _ isLeft => exact isLeft

end

/-- As long as a gateway is there, through works of the operator that may fail and
edits by others that spare gateways, it is written as it was at first, but for
its listeners, its version and the mark of a deletion. One that a work creates has
the configured class and records the settings that the work asks for. -/
theorem gateways_keep_their_records (config : Config) {w : Cluster} (spared : w.SparesGateways)
    {works : List Work} (sparing : ∀ work ∈ works, work.SparesGateways) (target : ObjectRef) :
    (∀ stretch : List Gateway,
        stretch.map some <:+: (w :: w.trail config works).map (·.gateways.get target) →
        stretch.Pairwise fun gateway gateway' =>
          gateway.Remains gateway' ∧ gateway.WrittenAlike gateway')
      ∧ ∀ earlier work later gateway, works = earlier ++ work :: later →
        let start := w.worked config earlier
        [none, some gateway] <:+:
            (start :: (work.run config start).clusters).map (·.gateways.get target) →
        ∃ settings listeners version, work.Asks config start target settings
          ∧ gateway = (Gateway.recording target settings config.gatewayClass
            listeners).withVersion version := by
  constructor
  · intro stretch always
    refine (pairwise_remains (Cluster.passes_trail spared sparing) always).imp ?_
    exact fun isLeft => ⟨isLeft, isLeft.writtenAlike⟩
  · intro earlier work later gateway split start appears
    subst split
    have spared : start.SparesGateways := Cluster.spares_worked spared fun other before =>
      sparing other (List.mem_append_left _ before)
    -- within the one work, only what it asks for can have been created
    have chain : List.IsChain (Cluster.Passes config (work.Asks config start))
        (start :: (work.run config start).clusters) :=
      Work.passes_run spared (sparing work (List.mem_append_right _ List.mem_cons_self))
        fun _ _ asks => asks
    have steps := isChain_gateways chain target
    have along := steps.infix appears
    cases (List.isChain_cons_cons.1 along).1 with
    | created settings listeners version isAsked =>
      exact ⟨settings, listeners, version, isAsked, rfl⟩

/-- A route whose gateway is not there yet; the first patch of a gateway will fail. -/
def founding : Cluster where
  routes := { objects := .ofList [(⟨"apps", "web"⟩, declaring "a.example.com")] }
  plans site := if site = ⟨.gateway, .merge⟩ then [{ fault := some .conflict }] else []
where
  /-- The route declares an issuer of its own. -/
  declaring (hostname : String) : Route :=
    Route.optedIn ⟨"apps", "web"⟩ ⟨"infra", "edge"⟩ hostname
      [(AnnotationKey.clusterIssuer, "letsencrypt"), (AnnotationKey.reconciled, "true"),
        (AnnotationKey.previousGateway, "infra/edge")]
      [finalizer]

/-- The gateway is created, its route gets another hostname, a first attempt to
list that fails. -/
def foundingWorks : List Work :=
  [.reconcile ⟨"apps", "web"⟩,
    .edit (.routes (.put (founding.declaring "b.example.com"))),
    .reconcile ⟨"apps", "web"⟩,
    .reconcile ⟨"apps", "web"⟩]

/-- The gateway as it is created, and as it is left, up to its listener. -/
def founded (hostname version : String) : Gateway :=
  (Gateway.recording ⟨"infra", "edge"⟩ ⟨"letsencrypt", "hnet-private"⟩ "eg"
    [.https hostname "infra"]).withVersion version

/-- The one disturbance that is planned is a failure. -/
theorem founding_spares : founding.SparesGateways := by
  intro site d planned edit before
  simp only [founding] at planned
  split at planned
  · cases List.mem_singleton.1 planned
    cases before
  · cases planned

theorem foundingWorks_spare : ∀ work ∈ foundingWorks, work.SparesGateways := by
  simp [foundingWorks, Work.SparesGateways, Edit.SparesGateways]

/-- The gateway is created for the issuer that its route declares, and is left with
another listener. -/
theorem founded_gateway_keeps_its_records :
    ([founded "a.example.com" "1", founded "b.example.com" "2"].Pairwise
        fun gateway gateway' => gateway.Remains gateway' ∧ gateway.WrittenAlike gateway')
      ∧ ∃ settings listeners version,
        (Work.reconcile ⟨"apps", "web"⟩).Asks .standard founding ⟨"infra", "edge"⟩ settings
          ∧ founded "a.example.com" "1"
            = (Gateway.recording ⟨"infra", "edge"⟩ settings "eg"
              listeners).withVersion version := by
  obtain ⟨remain, created⟩ := gateways_keep_their_records .standard founding_spares
    foundingWorks_spare ⟨"infra", "edge"⟩
  constructor
  · exact remain [founded "a.example.com" "1", founded "b.example.com" "2"] (by decide +kernel)
  · exact created [] _ _ (founded "a.example.com" "1") rfl (by decide +kernel)

end SharedGateway
