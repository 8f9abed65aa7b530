/-
What the routes ask of one gateway, said of the routes alone.

# The description

A route qualifies by three things of its own: it is not deleting, it opts in, and its
first parent reference is the gateway (`Object.Qualifies`). An aggregation describes
the routes if its listeners are the hostnames of those that qualify, in ascending
byte order, and its numbers count them (`Aggregation.Describes`). Two strictly
ascending lists of the same hostnames are one list, so there is at most one such
aggregation (`Describes.unique`), and the aggregation of a gateway is it
(`describes_ofRoutes`).

# One pass

The operator gathers hostnames and counts in one pass over the routes.
`Gathered.Covers` is what holds of the pass after every route, in terms of those that
it has seen; it is kept by one more route, whichever branch is taken
(`Gathered.Covers.take`), and so holds at the end. What the pass ends with therefore
describes the routes, and is the same aggregation.

# Consequences

All else about listeners follows from the set of hostnames and its order
(`aggregation_is_the_only_description`): they depend neither on the order of the
routes nor on repetitions, they are told apart by their names and by the secrets they
take certificates from, more routes ask for no fewer, and no route is counted for two
gateways.
-/
import Mathlib.Data.List.Sort
import SharedGateway.Proofs.Aggregation
import SharedGateway.Proofs.ByteOrder
import SharedGateway.Proofs.Event

namespace SharedGateway

-- ======================================================== which routes

/-- The route is not deleting, and its annotation opts it in with exactly `true`. -/
structure Object.Participates (route : Route) : Prop where
  live : route.metadata.deletionTimestamp = none
  enabled : route.annotated? AnnotationKey.enabled = some "true"

/-- The route participates, and its first parent reference is the gateway; a
reference without a namespace means the route's own. -/
structure Object.Qualifies (route : Route) (target : ObjectRef) : Prop extends
    route.Participates where
  attached : ∃ parent rest, route.spec.parents = parent :: rest
    ∧ parent.name = target.name ∧ parent.ns.getD (route.metadata.ns.getD "") = target.ns

section Routes

variable {route : Route} {target : ObjectRef}

/-- A route participates by its deletion mark and its annotation. -/
theorem Object.takesPart_iff : route.takesPart = true ↔ route.Participates := by
  have live : route.isDeleting = false ↔ route.metadata.deletionTimestamp = none :=
    Option.isSome_eq_false_iff.trans Option.isNone_iff_eq_none
  have enabled : route.settings.enabled = true
      ↔ route.annotated? AnnotationKey.enabled = some "true" := by
    rw [Object.annotated?_eq]
    exact decide_eq_true_iff
  rw [takesPart, Bool.and_eq_true, Bool.not_eq_true', live, enabled]
  exact ⟨fun both => ⟨both.1, both.2⟩, fun part => ⟨part.live, part.enabled⟩⟩

/-- The parent of a route is its first reference, in its own namespace if that names
none. -/
theorem Object.parent?_eq_some_iff : route.parent? = some target
    ↔ ∃ parent rest, route.spec.parents = parent :: rest
      ∧ parent.name = target.name ∧ parent.ns.getD (route.metadata.ns.getD "") = target.ns := by
  cases target with
  | mk ns name =>
    cases parents : route.spec.parents with
    | nil => simp [parent?, parents]
    | cons parent rest =>
      cases named : parent.ns <;> simp [parent?, parents, named, and_comm]

theorem Object.attachesTo_iff : route.attachesTo target = true ↔ route.Qualifies target := by
  rw [attachesTo, Bool.and_eq_true, takesPart_iff, decide_eq_true_iff, parent?_eq_some_iff]
  exact ⟨fun both => ⟨both.1, both.2⟩, fun q => ⟨q.toParticipates, q.attached⟩⟩

instance : Decidable route.Participates :=
  decidable_of_iff _ Object.takesPart_iff

instance : Decidable (route.Qualifies target) :=
  decidable_of_iff _ Object.attachesTo_iff

/-- A route has one first parent, so it qualifies for one gateway at most. -/
theorem Object.Qualifies.unique {other : ObjectRef} (h : route.Qualifies target)
    (h' : route.Qualifies other) : target = other := by
  have parent := Object.parent?_eq_some_iff.2 h.attached
  exact Option.some.inj (parent.symm.trans (Object.parent?_eq_some_iff.2 h'.attached))

end Routes

namespace Aggregation

variable {routes others : List Route} {target : ObjectRef} {hostname : String}

-- ============================================================ one pass

/-- What a pass over the routes has gathered so far. -/
structure Gathered where
  hostnames : Table String Unit := .empty
  matched : Nat := 0
  skipped : Nat := 0

/-- The next route of the pass. It is skipped or left, or counted and its hostnames
gathered. -/
def Gathered.take (target : ObjectRef) (g : Gathered) (route : Route) : Gathered :=
  if route.isDeleting || !route.settings.enabled then { g with skipped := g.skipped + 1 }
  else if route.parent? ≠ some target then g
  else
    { g with
      matched := g.matched + 1
      hostnames := ((route.spec.hostnames.filter (· ≠ "")).map (·, ())).foldl
        (fun table entry => table.insert entry.1 entry.2) g.hostnames }

/-- What a pass over all the routes gathers. -/
def gathered (routes : List Route) (target : ObjectRef) : Gathered :=
  routes.foldl (Gathered.take target) {}

/-- The pass has gathered what the routes that it has seen contribute. -/
structure Gathered.Covers (g : Gathered) (target : ObjectRef) (seen : List Route) : Prop where
  hostnames : ∀ hostname, hostname ∈ g.hostnames.keys
    ↔ ∃ route ∈ seen, route.serves target hostname
  matched : g.matched = seen.countP (·.attachesTo target)
  skipped : g.skipped = seen.countP fun route => !route.takesPart

/-- One more route: the three branches of the pass are the three ways in which a
route can bear on the gateway. -/
theorem Gathered.Covers.take {g : Gathered} {seen : List Route} (covers : g.Covers target seen)
    (route : Route) : (g.take target route).Covers target (seen ++ [route]) := by
  have later (hostname : String) : (∃ r ∈ seen ++ [route], r.serves target hostname)
      ↔ hostname ∈ g.hostnames.keys ∨ route.serves target hostname := by
    rw [covers.hostnames]
    simp only [List.mem_append, List.mem_singleton, or_and_right, exists_or, exists_eq_left]
  -- the numbers and the hostnames are told apart by what the route is
  unfold Gathered.take
  split
  case isTrue idle =>
    have skipped : route.takesPart = false := by
      simpa [Object.takesPart, imp_iff_not_or] using idle
    have unattached : route.attachesTo target = false := by simp [Object.attachesTo, skipped]
    refine ⟨fun hostname => ?_, ?_, ?_⟩
    · rw [later]
      simp [Object.serves, unattached]
    · simp [covers.matched, unattached]
    · simp [covers.skipped, skipped]
  case isFalse active =>
    have part : route.takesPart = true := by simpa [Object.takesPart] using active
    split
    case isTrue elsewhere =>
      have unattached : route.attachesTo target = false := by
        simpa [Object.attachesTo, part] using elsewhere
      refine ⟨fun hostname => ?_, ?_, ?_⟩
      · rw [later]
        simp [Object.serves, unattached]
      · simp [covers.matched, unattached]
      · simp [covers.skipped, part]
    case isFalse here =>
      have attached : route.attachesTo target = true := by
        simpa [Object.attachesTo, part] using here
      refine ⟨fun hostname => ?_, ?_, ?_⟩
      · rw [later, Table.mem_keys_foldl_insert]
        simp [Object.serves, attached]
      · simp [covers.matched, attached]
      · simp [covers.skipped, part]

/-- By induction on the routes, taken from the end: the pass covers all of them. -/
theorem covers_gathered (routes : List Route) (target : ObjectRef) :
    (gathered routes target).Covers target routes := by
  have general : ∀ (rest seen : List Route) (g : Gathered), g.Covers target seen →
      (rest.foldl (Gathered.take target) g).Covers target (seen ++ rest) := by
    intro rest
    induction rest with
    | nil =>
      intro seen g covers
      rwa [List.append_nil]
    | cons route rest ih =>
      intro seen g covers
      have rest_covers := ih _ _ (covers.take route)
      rwa [List.append_assoc] at rest_covers
  exact general routes [] {} ⟨by simp [Table.keys, Table.empty], rfl, rfl⟩

-- ======================================================= specification

/-- The aggregation says of the routes what is to be said for the gateway: one HTTPS
listener for each hostname that is not empty and stands in a route that qualifies, in
ascending byte order, and how many routes qualify, do not participate, and are there. -/
structure Describes (a : Aggregation) (routes : List Route) (target : ObjectRef) : Prop where
  listeners : ∃ hostnames : List String,
    a.listeners = hostnames.map (Listener.https · target.ns)
      ∧ hostnames.Pairwise (fun h h' => Text.bytes h < Text.bytes h')
      ∧ ∀ hostname, hostname ∈ hostnames
        ↔ hostname ≠ "" ∧ ∃ route ∈ routes, route.Qualifies target
          ∧ hostname ∈ route.spec.hostnames
  matched : a.matched = routes.countP (·.Qualifies target)
  skipped : a.skipped = routes.countP (¬ ·.Participates)
  total : a.total = routes.length

/-- The table of the hostnames that are contributed, with the counts, describes the
routes: its keys ascend as texts do, which is as their bytes do. -/
theorem describes_of_mem_keys {table : Table String Unit}
    (members : ∀ hostname, hostname ∈ table.keys
      ↔ ∃ route ∈ routes, route.serves target hostname) :
    Describes {
      listeners := table.keys.map (.https · target.ns)
      matched := routes.countP (·.attachesTo target)
      skipped := routes.countP fun route => !route.takesPart
      total := routes.length } routes target where
  listeners := by
    have ascending : table.keys.Pairwise (· < ·) := List.pairwise_map.2 table.ascending
    refine ⟨table.keys, rfl, ascending.imp Text.bytes_lt_bytes.2, fun hostname => ?_⟩
    rw [members]
    simp only [Object.serves, Object.attachesTo_iff]
    tauto
  matched := List.countP_congr fun route _ => by
    rw [Object.attachesTo_iff, decide_eq_true_iff]
  skipped := List.countP_congr fun route _ => by
    rw [Bool.not_eq_true', ← Bool.not_eq_true, Object.takesPart_iff, decide_eq_true_iff]
  total := rfl

/-- The aggregation of a gateway describes the routes. -/
theorem describes_ofRoutes (routes : List Route) (target : ObjectRef) :
    (ofRoutes routes target).Describes routes target :=
  describes_of_mem_keys fun _ => mem_keys_hostnames

/-- Two strictly ascending lists of the same hostnames are one list, so nothing is left
open by the description. -/
theorem Describes.unique {a b : Aggregation} (ha : a.Describes routes target)
    (hb : b.Describes routes target) : a = b := by
  obtain ⟨hosts, listed, ascending, members⟩ := ha.listeners
  obtain ⟨hosts', listed', ascending', members'⟩ := hb.listeners
  have irreflexive : Std.Irrefl fun h h' => Text.bytes h < Text.bytes h' :=
    ⟨fun h => List.lt_irrefl _⟩
  have antisymmetric : Std.Antisymm fun h h' => Text.bytes h < Text.bytes h' :=
    ⟨fun h h' before after => absurd (List.lt_trans before after) (List.lt_irrefl _)⟩
  have same : hosts = hosts' := ascending.eq_of_mem_iff ascending' fun hostname => by
    rw [members, members']
  have listeners : a.listeners = b.listeners := by rw [listed, listed', same]
  have matched := ha.matched.trans hb.matched.symm
  have skipped := ha.skipped.trans hb.skipped.symm
  have total := ha.total.trans hb.total.symm
  cases a
  cases b
  exact Aggregation.mk.injEq .. ▸ ⟨listeners, matched, skipped, total⟩

/-- The aggregation that the pass ends with. -/
def Gathered.finish (g : Gathered) (target : ObjectRef) (total : Nat) : Aggregation where
  listeners := g.hostnames.keys.map (.https · target.ns)
  matched := g.matched
  skipped := g.skipped
  total := total

/-- So does what the pass ends with. -/
theorem describes_gathered (routes : List Route) (target : ObjectRef) :
    ((gathered routes target).finish target routes.length).Describes routes target := by
  have covers := covers_gathered routes target
  have described := describes_of_mem_keys covers.hostnames
  rwa [← covers.matched, ← covers.skipped] at described

-- ======================================================== consequences

/-- More routes ask for no fewer listeners, and those that were asked for keep their
order. -/
theorem listeners_sublist_of_subset (within : routes ⊆ others) (target : ObjectRef) :
    (ofRoutes routes target).listeners.Sublist (ofRoutes others target).listeners := by
  have ascending (routes : List Route) : (hostnames routes target).keys.Pairwise (· < ·) :=
    List.pairwise_map.2 (hostnames routes target).ascending
  have antisymmetric : Std.Antisymm fun h h' : String => h < h' :=
    ⟨fun h h' before after => absurd (String.lt_trans before after) (String.lt_irrefl _)⟩
  have contained : (hostnames routes target).keys ⊆ (hostnames others target).keys := by
    intro hostname listed
    obtain ⟨route, member, serves⟩ := mem_keys_hostnames.1 listed
    exact mem_keys_hostnames.2 ⟨route, within member, serves⟩
  have subperm := List.subperm_of_subset (Table.nodup_keys (hostnames routes target)) contained
  exact (List.sublist_of_subperm_of_pairwise subperm (ascending routes) (ascending others)).map _

/-- The same routes, in any order and with any repetition, ask for the same listeners.
-/
theorem listeners_eq_of_mem_iff (h : ∀ route, route ∈ routes ↔ route ∈ others)
    (target : ObjectRef) :
    (ofRoutes routes target).listeners = (ofRoutes others target).listeners :=
  listeners_congr fun hostname => by simp only [h]

/-- No route counts twice: it is matched by one gateway at most, and only if it is not
skipped. -/
theorem matched_add_matched_add_skipped_le {other : ObjectRef} (differ : other ≠ target)
    (routes : List Route) :
    (ofRoutes routes target).matched + (ofRoutes routes other).matched
        + (ofRoutes routes target).skipped ≤ (ofRoutes routes target).total := by
  show routes.countP (·.attachesTo target) + routes.countP (·.attachesTo other)
    + routes.countP (fun route => !route.takesPart) ≤ routes.length
  induction routes with
  | nil => simp
  | cons route rest ih =>
    have once : (if route.attachesTo target = true then 1 else 0)
        + (if route.attachesTo other = true then 1 else 0)
        + (if (!route.takesPart) = true then 1 else 0) ≤ 1 := by
      cases part : route.takesPart with
      | false => simp [Object.attachesTo, part]
      | true =>
        by_cases here : route.attachesTo target = true
        · have apart : route.attachesTo other = false := Bool.eq_false_iff.2 fun there =>
            differ ((Object.attachesTo_iff.1 there).unique (Object.attachesTo_iff.1 here))
          simp [here, apart]
        · by_cases there : route.attachesTo other = true <;> simp [here, there]
    simp only [List.countP_cons, List.length_cons]
    omega

end Aggregation

-- ============================================================= secrets

/-- The names of the secrets that the listener takes its certificates from. -/
def Listener.secretNames (l : Listener) : List String :=
  match l.tls with
  | none => []
  | some tls => tls.certificates.map (·.name)

/-- A listener takes its certificate from the one secret of its hostname. -/
theorem Listener.secretNames_https (hostname ns : String) :
    (Listener.https hostname ns).secretNames = [certificateName hostname] := rfl

/-- Secrets are told apart by their hostnames. -/
theorem Listener.certificateName_injective {h h' : String}
    (same : certificateName h = certificateName h') : h = h' := by
  have chars := congrArg String.toList same
  simp only [certificateName, String.toList_append] at chars
  exact String.toList_inj.1 (List.append_cancel_right chars)

open Aggregation in
/-- The aggregation of a gateway is the one that describes the routes, and one pass over
them gathers it. So its listeners depend neither on the order of the routes nor on
repetitions, differ in their names and in their secrets, and only grow with the routes;
and no route is attributed to two gateways. -/
theorem aggregation_is_the_only_description (routes : List Route) (target : ObjectRef) :
    let a := ofRoutes routes target
    (∀ b : Aggregation, b.Describes routes target ↔ b = a)
    ∧ (gathered routes target).finish target routes.length = a
    ∧ (∀ others, (∀ route, route ∈ others ↔ route ∈ routes) →
      (ofRoutes others target).listeners = a.listeners)
    ∧ (a.listeners.map (·.name)).Nodup
    ∧ (a.listeners.flatMap (·.secretNames)).Nodup
    ∧ (∀ more, routes ⊆ more → a.listeners.Sublist (ofRoutes more target).listeners)
    ∧ ∀ other, other ≠ target →
      (∀ route : Route, ¬ (route.Qualifies target ∧ route.Qualifies other))
        ∧ a.matched + (ofRoutes routes other).matched + a.skipped ≤ a.total := by
  intro a
  have described : a.Describes routes target := describes_ofRoutes routes target
  obtain ⟨hosts, listed, ascending, -⟩ := described.listeners
  -- strictly ascending, so none comes up twice
  have distinct : hosts.Nodup := ascending.imp fun {h h'} before same => by
    rw [same] at before
    exact List.lt_irrefl _ before
  refine ⟨fun b => ⟨fun describes => describes.unique described, fun same => same ▸ described⟩,
    (describes_gathered routes target).unique described,
    fun others same => listeners_eq_of_mem_iff same target, ?_, ?_,
    fun more within => listeners_sublist_of_subset within target,
    fun other differ => ⟨fun route ⟨here, there⟩ => differ (there.unique here),
      matched_add_matched_add_skipped_le differ routes⟩⟩
  · have names : a.listeners.map (·.name) = hosts := by
      simp [listed, Listener.https, Function.comp_def]
    rwa [names]
  · have secrets : a.listeners.flatMap (·.secretNames) = hosts.map Listener.certificateName := by
      simp [listed, List.flatMap_map, Listener.secretNames_https, ← List.map_eq_flatMap]
    rw [secrets]
    exact distinct.map fun _ _ => Listener.certificateName_injective

/-- Five routes: two qualify for one gateway and share a hostname, one attaches to
another, one is disabled and one deleting. -/
def assorted : List Route :=
  [Route.optedIn ⟨"apps", "first"⟩ ⟨"infra", "edge"⟩ "b.example.com" [] [],
    Route.optedIn ⟨"apps", "elsewhere"⟩ ⟨"infra", "other"⟩ "c.example.com" [] [],
    { metadata := { name := some "second", ns := some "infra", annotations := optsIn }
      spec := {
        parents := [{ name := "edge" }, { name := "other" }]
        hostnames := ["b.example.com", "", "a.example.com"] } },
    { metadata := {}, spec := { parents := [{ name := "edge", ns := some "infra" }] } },
    { metadata := { annotations := optsIn, deletionTimestamp := some Store.deletionTime }
      spec := { parents := [{ name := "edge", ns := some "infra" }] } }]
where
  optsIn : Option (Table String String) := some (.ofList [(AnnotationKey.enabled, "true")])

/-- The two routes that qualify ask for two listeners, whatever the order. -/
theorem assorted_routes_are_described :
    let target : ObjectRef := ⟨"infra", "edge"⟩
    let asked : Aggregation := {
      listeners := [.https "a.example.com" "infra", .https "b.example.com" "infra"]
      matched := 2
      skipped := 2
      total := 5 }
    asked.Describes assorted target
      ∧ (Aggregation.ofRoutes assorted.reverse target).listeners = asked.listeners
      ∧ (Aggregation.ofRoutes assorted ⟨"infra", "other"⟩).matched = 1
      ∧ asked.matched + 1 + asked.skipped ≤ asked.total := by
  intro target asked
  obtain ⟨describes_iff, -, reordered, -, -, -, apart⟩ :=
    aggregation_is_the_only_description assorted target
  have computed : asked = Aggregation.ofRoutes assorted target := by decide +kernel
  have other : (Aggregation.ofRoutes assorted ⟨"infra", "other"⟩).matched = 1 := by
    decide +kernel
  refine ⟨(describes_iff asked).2 computed, ?_, other, ?_⟩
  · rw [computed]
    exact reordered _ fun route => List.mem_reverse
  · have bounded := (apart ⟨"infra", "other"⟩ (by decide)).2
    rwa [other, ← computed] at bounded

end SharedGateway
