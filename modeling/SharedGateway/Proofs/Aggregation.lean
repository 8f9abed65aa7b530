/-
What the aggregation of a gateway depends on.

The aggregation walks over all routes and keeps tables as it goes, but its listeners
are determined by less: by the set of hostnames that routes contribute to the gateway
(`mem_listeners`, `listeners_congr`). A listener is made from its hostname and the
gateway's namespace, and the hostname is told from it again (`https_injective`), so
to speak of the listeners is to speak of the hostnames. They stand in ascending order
with none twice, for they come from the keys of a table; so no order or repetition
among the routes is left in them.

The operator compares them with what a gateway carries as lists in any order
(`sameListeners_iff_perm`). Together this lets an event of one gateway be argued
about without the others: a change to the routes that leaves the contributions to a
gateway alone leaves its listeners alone.
-/
import Mathlib.Data.List.Perm.Subperm
import SharedGateway.Proofs.Table
import SharedGateway.Sync

namespace SharedGateway

-- ======================================================== contributions

/-- Does the route contribute the hostname to the gateway? -/
def Object.serves (route : Route) (target : ObjectRef) (hostname : String) : Prop :=
  route.attachesTo target = true ∧ hostname ∈ route.spec.hostnames ∧ hostname ≠ ""

namespace Aggregation

variable {routes others : List Route} {target : ObjectRef} {hostname : String}

/-- The hostnames in the table are those that a route contributes. -/
theorem mem_keys_hostnames :
    hostname ∈ (hostnames routes target).keys
      ↔ ∃ route ∈ routes, route.serves target hostname := by
  simp only [hostnames, Table.mem_keys_ofList, List.map_map, List.mem_map, List.mem_filter,
    List.mem_flatMap, Function.comp_apply, Object.serves, ne_eq, decide_not,
    Bool.not_eq_true', decide_eq_false_iff_not]
  constructor
  · intro contributed
    obtain ⟨_, ⟨⟨route, ⟨member, attached⟩, listed⟩, nonempty⟩, rfl⟩ := contributed
    exact ⟨route, member, attached, listed, nonempty⟩
  · intro contributed
    obtain ⟨route, member, attached, listed, nonempty⟩ := contributed
    exact ⟨hostname, ⟨⟨route, ⟨member, attached⟩, listed⟩, nonempty⟩, rfl⟩

/-- The listeners are those of the hostnames that routes contribute. -/
theorem mem_listeners {l : Listener} :
    l ∈ (ofRoutes routes target).listeners
      ↔ ∃ hostname, (∃ route ∈ routes, route.serves target hostname)
        ∧ Listener.https hostname target.ns = l := by
  simp only [ofRoutes, List.mem_map, mem_keys_hostnames]

theorem hostname_https (hostname ns : String) :
    (Listener.https hostname ns).hostname = some hostname := rfl

/-- Listeners of one namespace are told apart by their hostnames. -/
theorem https_injective {h h' ns : String} (same : Listener.https h ns = Listener.https h' ns) :
    h = h' := by
  have listed := congrArg Listener.hostname same
  rw [hostname_https, hostname_https] at listed
  exact Option.some.inj listed

/-- A hostname has its listener exactly where some route contributes it. -/
theorem https_mem_listeners :
    Listener.https hostname target.ns ∈ (ofRoutes routes target).listeners
      ↔ ∃ route ∈ routes, route.serves target hostname := by
  rw [mem_listeners]
  constructor
  · intro listed
    obtain ⟨h, contributed, same⟩ := listed
    rwa [https_injective same] at contributed
  · exact fun contributed => ⟨hostname, contributed, rfl⟩

theorem nodup_listeners : (ofRoutes routes target).listeners.Nodup := by
  refine List.pairwise_map.2 ((Table.nodup_keys (hostnames routes target)).imp ?_)
  intro a b differ same
  exact differ (https_injective same)

/-- Nobody needs the gateway exactly when nothing is contributed to it. -/
theorem listeners_eq_nil_iff :
    (ofRoutes routes target).listeners = []
      ↔ ∀ route ∈ routes, ∀ hostname, ¬ route.serves target hostname := by
  rw [List.eq_nil_iff_forall_not_mem]
  constructor
  · intro none_listed route member hostname serves
    exact none_listed _ (https_mem_listeners.2 ⟨route, member, serves⟩)
  · intro none_serves l listed
    obtain ⟨hostname, ⟨route, member, serves⟩, -⟩ := mem_listeners.1 listed
    exact none_serves route member hostname serves

-- ============================================================ congruence

/-- Routes that contribute the same hostnames ask for the same listeners: the
hostnames are the keys of a table, and a table without values is its keys. -/
theorem listeners_congr
    (h : ∀ hostname, (∃ route ∈ routes, route.serves target hostname)
      ↔ ∃ route ∈ others, route.serves target hostname) :
    (ofRoutes routes target).listeners = (ofRoutes others target).listeners := by
  have same : hostnames routes target = hostnames others target := by
    refine Table.ext_find? fun hostname => ?_
    have keys := h hostname
    rw [← mem_keys_hostnames, ← mem_keys_hostnames, Table.mem_keys, Table.mem_keys] at keys
    cases left : (hostnames routes target).find? hostname <;>
      cases right : (hostnames others target).find? hostname <;> simp_all
  simp only [ofRoutes, same]

/-- Two computed lists of listeners with the same members are the same list. -/
theorem listeners_eq_of_perm
    (h : (ofRoutes routes target).listeners.Perm (ofRoutes others target).listeners) :
    (ofRoutes routes target).listeners = (ofRoutes others target).listeners := by
  refine listeners_congr fun hostname => ?_
  rw [← https_mem_listeners, ← https_mem_listeners]
  exact h.mem_iff

end Aggregation

-- =========================================================== comparison

/-- Compared with a list in which nothing stands twice, the same length and the
same members are the same list in some order. -/
theorem Sync.sameListeners_iff_perm {current desired : List Listener} (nodup : desired.Nodup) :
    sameListeners current desired = true ↔ current.Perm desired := by
  simp only [sameListeners, Bool.and_eq_true, decide_eq_true_eq, List.all_eq_true,
    List.contains_iff_mem]
  constructor
  · intro same
    obtain ⟨⟨sameLength, contained⟩, -⟩ := same
    have subperm := List.subperm_of_subset nodup contained
    exact (subperm.perm_of_length_le (Nat.le_of_eq sameLength)).symm
  · intro perm
    exact ⟨⟨perm.length_eq, fun _ => perm.mem_iff.2⟩, fun _ => perm.mem_iff.1⟩

end SharedGateway
