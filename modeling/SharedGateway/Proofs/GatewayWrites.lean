/-
How gateways are written.

# The calls of a sync

Whatever the stores answer and whoever else writes meanwhile, a sync makes three
calls at most: it reads its gateway, lists the routes, and writes the gateway by what
it has read (`Sync.Trace`). A write states the version that was read, or creates a
gateway where none was found (`Moment.Backs`). None of this depends on the cluster,
so the lemmas are about runs in any cluster, with any plans, and need no assumption.

# Budgets

An event is made of such syncs and of attempts at its own route. What the parts may
write adds up: a `Budget` is a list of gateways, each of which may be written as
often as it is listed, and a number of writes of routes that may go through; and
every write of a gateway in it goes back to a read of that gateway with no call about
a gateway in between. The budget of a sequence is the sum of those of its parts
(`Budget.append`, `Budget.bind`), so each operation has the budget that can be read
off its text: one gateway for a sync, the gateways in turn for several, one write for
an update of the route.

Updates are repeated, and a sum over the repetitions would be too much. But an
attempt ends well with the first write that goes through, and then there is no
further one (`ChangesOnce`, `budget_retryFrom`).

# The event

The gateways listed in the budget of an event are the former and the present one of
its route, and no gateway is listed twice: a gateway is left only if it is not the
present one, and a deleting route's gateways are two different ones or one. So each
is written once at most and never over a change that was not seen
(`gateway_writes_are_guarded`).
-/
import Mathlib.Data.List.Nodup
import SharedGateway.Proofs.Calls
import SharedGateway.Proofs.Event
import SharedGateway.Proofs.Runs

namespace SharedGateway

open Script

variable {ε ε' α β : Type}

-- ============================================================== writes

/-- The call is about the gateway and does not just read it. -/
def Call.writesGateway (target : ObjectRef) (c : Call) : Bool :=
  c.kind = .gateway && c.method ≠ .get && c.key? = some target

theorem Call.kind_of_writesGateway {target : ObjectRef} {c : Call}
    (writes : c.writesGateway target = true) : c.kind = .gateway := by
  simp only [Call.writesGateway, Bool.and_eq_true, decide_eq_true_eq] at writes
  exact writes.1.1

/-- Can the call change a store? -/
def Call.isWrite : Call → Bool
  | .routes request => request.isWrite
  | .gateways request => request.isWrite

/-- A write of a route that went through. -/
def Moment.changesRoute (m : Moment) : Bool :=
  m.call.kind = .httpRoute && m.call.isWrite && m.reply.isOk

/-- Listeners that the API takes: there are some, and no two of one name. -/
structure Listener.Publishable (listeners : List Listener) : Prop where
  nonempty : listeners ≠ []
  names : (listeners.map (·.name)).Nodup

/-- Listeners are named by their hostnames, of which none is wanted twice. -/
theorem Aggregation.publishable {routes : List Route} {target : ObjectRef}
    (wanted : (ofRoutes routes target).isEmpty = false) :
    Listener.Publishable (ofRoutes routes target).listeners where
  nonempty := fun none_wanted => by simp [isEmpty, none_wanted] at wanted
  names := by
    have names : (ofRoutes routes target).listeners.map (·.name)
        = (hostnames routes target).keys := by
      simp [ofRoutes, Listener.https, Function.comp_def]
    rw [names]
    exact Table.nodup_keys _

/-- A write of the gateway and the read that it is made from. A gateway is created
where none was found; any other write states the version that was found. -/
inductive Moment.Backs (target : ObjectRef) : Moment → Moment → Prop
  | create (met met' : Cluster) (gateway : Gateway) (reply : Except StoreError Gateway)
    (isTarget : gateway.ref = target)
    (listeners : Listener.Publishable gateway.spec.listeners) :
    Backs target ⟨met, .gateways (.get target), .ok none⟩
      ⟨met', .gateways (.create gateway), reply⟩
  | merge (met met' : Cluster) (existing : Gateway) (listeners : List Listener)
    (reply : Except StoreError Gateway) (publishable : Listener.Publishable listeners) :
    Backs target ⟨met, .gateways (.get target), .ok (some existing)⟩
      ⟨met', .gateways (.merge target (Json.object [
        ("metadata", some (Json.object [
          ("resourceVersion", some (Json.orNull (existing.resourceVersion.map .str)))])),
        ("spec", some (Json.object [
          ("listeners", some (.arr (listeners.map Listener.toJson)))]))])), reply⟩
  | delete (met met' : Cluster) (existing : Gateway) (reply : Except StoreError Unit) :
    Backs target ⟨met, .gateways (.get target), .ok (some existing)⟩
      ⟨met', .gateways (.delete target existing.resourceVersion), reply⟩

-- =============================================================== traces

/-- The calls of one sync of the gateway. -/
inductive Sync.Trace (target : ObjectRef) : List Moment → Prop
  | read (met : Cluster) (reply : Except StoreError (Option Gateway)) :
    Trace target [⟨met, .gateways (.get target), reply⟩]
  | listed (met met' : Cluster) (reply : Except StoreError (Option Gateway))
    (listing : Except StoreError (List Route)) :
    Trace target [⟨met, .gateways (.get target), reply⟩, ⟨met', .routes .list, listing⟩]
  | written (read write : Moment) (met : Cluster) (listing : Except StoreError (List Route))
    (backs : read.Backs target write) :
    Trace target [read, ⟨met, .routes .list, listing⟩, write]

section Trace

variable {config : Config} {settings : GatewaySettings} {target : ObjectRef}

/-- The calls of a sync that goes on with the routes. -/
theorem moments_collect_bind (f : Aggregation → Script SyncError β) (w : Cluster) :
    (((liftM (Sync.collect target) : Script SyncError Aggregation) >>= f).run w).moments
      = ⟨(w.answer (.routes .list)).met, .routes .list, (w.answer (.routes .list)).reply⟩
        :: match (w.answer (.routes .list)).reply with
          | .ok routes =>
            ((f (.ofRoutes routes target)).run (w.answer (.routes .list)).after).moments
          | .error _ => [] := by
  have shape : ((liftM (Sync.collect target) : Script SyncError Aggregation) >>= f)
      = ((request (.routes .list)).mapError SyncError.store
        >>= fun routes => f (.ofRoutes routes target)) := by
    refine congrArg (Script.call (.routes .list)) (funext fun reply => ?_)
    cases reply <;> rfl
  rw [shape, moments_request_bind]
  cases (w.answer (.routes .list)).reply <;> rfl

/-- A sync that has read its gateway goes on with the routes, and is no longer than what
comes after them allows. -/
theorem trace_collect_bind {met : Cluster} {reply : Except StoreError (Option Gateway)}
    {f : Aggregation → Script SyncError β}
    (rest : ∀ routes met' w, Sync.Trace target (⟨met, .gateways (.get target), reply⟩
      :: ⟨met', .routes .list, .ok routes⟩ :: ((f (.ofRoutes routes target)).run w).moments))
    (w : Cluster) :
    Sync.Trace target (⟨met, .gateways (.get target), reply⟩
      :: (((liftM (Sync.collect target) : Script SyncError Aggregation) >>= f).run w).moments) := by
  rw [moments_collect_bind]
  cases (w.answer (.routes .list)).reply with
  | error e => exact .listed met _ reply _
  | ok routes => exact rest routes _ _

/-- A sync begins with reading its gateway, and ends there if that fails. -/
theorem trace_read_bind {f : Option Gateway → Script SyncError β}
    (rest : ∀ found met w, Sync.Trace target (⟨met, .gateways (.get target), .ok found⟩
      :: ((f found).run w).moments)) (w : Cluster) :
    Sync.Trace target (((liftM (Gateways.get target) : Script SyncError (Option Gateway))
      >>= f).run w).moments := by
  unfold Gateways.get
  rw [lift_store, moments_request_bind]
  cases (w.answer (.gateways (.get target))).reply with
  | error e => exact .read _ _
  | ok found => exact rest found _ _

/-- A gateway as it was read is written once at most, from what was read. -/
theorem trace_syncExisting (met : Cluster) (existing : Gateway) (w : Cluster) :
    Sync.Trace target (⟨met, .gateways (.get target), .ok (some existing)⟩
      :: ((Sync.syncExisting target existing).run w).moments) := by
  let read : Moment := ⟨met, .gateways (.get target), .ok (some existing)⟩
  refine Sync.syncExisting_elim target existing
    (J := fun s => ∀ w, Sync.Trace target (read :: (s.run w).moments))
    (K := fun a s => ∀ routes met' w, a = .ofRoutes routes target →
      Sync.Trace target (read :: ⟨met', .routes .list, .ok routes⟩ :: (s.run w).moments))
    (fun f rest => trace_collect_bind fun routes met' w => rest _ routes met' w rfl) ?_ ?_ ?_ w
  · intro a _ routes met' w _
    rw [Sync.remove_eq, moments_attempt_bind]
    exact .written _ _ _ _ (.delete met _ existing _)
  · exact fun _ _ _ _ met' _ _ => .listed met met' _ _
  · intro a wanted _ routes met' w collected
    subst collected
    unfold Gateways.merge
    rw [lift_store, moments_request_last _ _ fun _ _ => rfl]
    exact .written _ _ _ _ (.merge met _ existing _ _ (Aggregation.publishable wanted))

/-- A missing gateway is created once at most, and only where it was read to be missing. -/
theorem trace_create (config : Config) (settings : GatewaySettings) (met w : Cluster) :
    Sync.Trace target (⟨met, .gateways (.get target), .ok none⟩
      :: ((Sync.create config target settings).run w).moments) := by
  let read : Moment := ⟨met, .gateways (.get target), .ok none⟩
  refine Sync.create_elim config target settings
    (J := fun s => ∀ w, Sync.Trace target (read :: (s.run w).moments))
    (K := fun a s => ∀ routes met' w, a = .ofRoutes routes target →
      Sync.Trace target (read :: ⟨met', .routes .list, .ok routes⟩ :: (s.run w).moments))
    (fun f rest => trace_collect_bind fun routes met' w => rest _ routes met' w rfl) ?_ ?_ w
  · exact fun _ _ _ met' _ _ => .listed met met' _ _
  · intro a wanted routes met' w collected
    subst collected
    unfold Gateways.create
    rw [lift_store, moments_request_last _ _ fun _ _ => rfl]
    exact .written _ _ _ _ (.create met _ _ _ rfl (Aggregation.publishable wanted))

/-- A refresh writes what it has read to be there. -/
theorem trace_refresh (target : ObjectRef) (w : Cluster) :
    Sync.Trace target ((Sync.refresh target).run w).moments :=
  Sync.refresh_elim target (J := fun s => ∀ w, Sync.Trace target (s.run w).moments)
    (K := fun found s => ∀ met w, Sync.Trace target
      (⟨met, .gateways (.get target), .ok found⟩ :: (s.run w).moments))
    (fun _ => trace_read_bind) (fun met _ => .read met _)
    (fun existing met => trace_syncExisting met existing) w

/-- Ensuring writes what it has read to be there, or creates what is not. -/
theorem trace_ensure (config : Config) (target : ObjectRef) (settings : GatewaySettings)
    (w : Cluster) : Sync.Trace target ((Sync.ensure config target settings).run w).moments :=
  Sync.ensure_elim config target settings
    (J := fun s => ∀ w, Sync.Trace target (s.run w).moments)
    (K := fun found s => ∀ met w, Sync.Trace target
      (⟨met, .gateways (.get target), .ok found⟩ :: (s.run w).moments))
    (fun _ => trace_read_bind) (trace_create config settings) (fun _ _ _ met _ => .read met _)
    (fun existing _ met => trace_syncExisting met existing) w

end Trace

-- ============================================================== budgets

/-- The write goes back to a read of one of the gateways, and no call about a gateway
comes between the two. -/
def Moment.BackedBy (mayWrite : ObjectRef → Prop) (earlier : List Moment) (m : Moment) : Prop :=
  ∃ before read between, earlier = before ++ read :: between
    ∧ (∀ other ∈ between, other.call.kind = .httpRoute)
    ∧ ∃ target, mayWrite target ∧ read.Backs target m

/-- Every write of a gateway goes back to a read, no gateway is written more often
than it is listed, and that many writes of routes went through at most. -/
structure Budget (targets : List ObjectRef) (changes : Nat) (moments : List Moment) : Prop where
  backed : ∀ earlier m later, moments = earlier ++ m :: later →
    m.call.kind = .gateway → m.call.method ≠ .get → m.BackedBy (· ∈ targets) earlier
  gateways : ∀ target, moments.countP (·.call.writesGateway target) ≤ targets.count target
  routes : moments.countP Moment.changesRoute ≤ changes

namespace Budget

variable {targets targets' : List ObjectRef} {changes changes' : Nat}
  {moments moments' : List Moment}

/-- A larger budget allows as much. -/
theorem weaken (h : Budget targets changes moments) (more : targets.Sublist targets')
    (within : changes ≤ changes') : Budget targets' changes' moments where
  backed earlier m later split about writes := by
    obtain ⟨before, read, between, shape, routesOnly, target, listed, backs⟩ :=
      h.backed earlier m later split about writes
    exact ⟨before, read, between, shape, routesOnly, target, more.subset listed, backs⟩
  gateways target := Nat.le_trans (h.gateways target) (more.count_le target)
  routes := Nat.le_trans h.routes within

/-- Calls that only read gateways spare them. -/
theorem of_reads (reads : ∀ m ∈ moments, m.call.kind = .gateway → m.call.method = .get)
    (within : moments.countP Moment.changesRoute ≤ changes) : Budget [] changes moments where
  backed earlier m later split about writes := by
    have made : m ∈ moments := by
      rw [split]
      exact List.mem_append_right _ List.mem_cons_self
    exact absurd (reads m made about) writes
  gateways target := by
    have spared : ∀ m ∈ moments, ¬ m.call.writesGateway target = true := by
      intro m made
      by_cases about : m.call.kind = .gateway
      · simp [Call.writesGateway, reads m made about]
      · simp [Call.writesGateway, about]
    rw [List.countP_eq_zero.2 spared]
    exact Nat.zero_le _
  routes := within

theorem nil : Budget [] 0 [] :=
  of_reads (fun _ made => by cases made) (Nat.le_refl 0)

/-- One after the other, calls may write what each may write by itself. -/
theorem append (first : Budget targets changes moments)
    (second : Budget targets' changes' moments') :
    Budget (targets ++ targets') (changes + changes') (moments ++ moments') where
  backed earlier m later split about writes := by
    obtain ⟨front, rfl, late⟩ | ⟨back, early, rest⟩ := List.append_eq_append_iff.1 split
    · obtain ⟨before, read, between, rfl, routesOnly, target, listed, backs⟩ :=
        second.backed front m later late about writes
      exact ⟨moments ++ before, read, between, by rw [List.append_assoc], routesOnly, target,
        List.mem_append_right _ listed, backs⟩
    · cases back with
      | nil =>
        obtain ⟨before, read, between, shape, routesOnly, target, listed, backs⟩ :=
          second.backed [] m later rest.symm about writes
        cases before <;> cases shape
      | cons m' back =>
        cases rest
        obtain ⟨before, read, between, shape, routesOnly, target, listed, backs⟩ :=
          first.backed earlier m back early about writes
        exact ⟨before, read, between, shape, routesOnly, target,
          List.mem_append_left _ listed, backs⟩
  gateways target := by
    rw [List.countP_append, List.count_append]
    exact Nat.add_le_add (first.gateways target) (second.gateways target)
  routes := by
    rw [List.countP_append]
    exact Nat.add_le_add first.routes second.routes

/-- A gateway that is not listed is not written. -/
theorem spares {target : ObjectRef} (h : Budget targets changes moments)
    (unlisted : target ∉ targets) : ∀ m ∈ moments, m.call.writesGateway target = false := by
  have none_made := h.gateways target
  rw [List.count_eq_zero.2 unlisted, Nat.le_zero, List.countP_eq_zero] at none_made
  exact fun m made => Bool.eq_false_iff.2 (none_made m made)

/-- What a sequence may write is what its parts may write. -/
theorem bind {s : Script ε α} {f : α → Script ε β} {w : Cluster}
    (first : Budget targets changes (s.run w).moments)
    (rest : ∀ a w, Budget targets' changes' ((f a).run w).moments) :
    Budget (targets ++ targets') (changes + changes') ((s >>= f).run w).moments := by
  rw [run_bind]
  cases (s.run w).result with
  | ok a => exact first.append (rest a _)
  | error e => exact first.weaken (List.sublist_append_left _ _) (Nat.le_add_right _ _)

/-- What follows a script without a call of its own adds nothing. -/
theorem last {s : Script ε α} {f : α → Script ε β} {w : Cluster}
    (first : Budget targets changes (s.run w).moments)
    (last : ∀ a w, ((f a).run w).moments = []) :
    Budget targets changes ((s >>= f).run w).moments := by
  have both : Budget (targets ++ []) (changes + 0) ((s >>= f).run w).moments :=
    first.bind fun a w => by
      rw [last a w]
      exact .nil
  rwa [List.append_nil] at both

end Budget

/-- Of a read and the write that it backs, the write alone writes, and to the gateway
that is read. -/
theorem Moment.Backs.writesGateway {target : ObjectRef} {read write : Moment}
    (backs : read.Backs target write) (other : ObjectRef) :
    read.call.writesGateway other = false
      ∧ write.call.writesGateway other = decide (target = other) := by
  cases backs with
  | create met met' gateway reply isTarget listeners =>
    subst isTarget
    simp [Call.writesGateway, Call.method, Call.kind, Call.key?, Request.method, Request.key?]
  | merge met met' existing listeners reply publishable =>
    simp [Call.writesGateway, Call.method, Call.kind, Call.key?, Request.method, Request.key?]
  | delete met met' existing reply =>
    simp [Call.writesGateway, Call.method, Call.kind, Call.key?, Request.method, Request.key?]

theorem Moment.Backs.onGateways {target : ObjectRef} {read write : Moment}
    (backs : read.Backs target write) :
    read.call.kind = .gateway ∧ write.call.kind = .gateway := by
  cases backs <;> exact ⟨rfl, rfl⟩

/-- A sync writes its own gateway, once at most. -/
theorem Sync.Trace.budget {target : ObjectRef} {moments : List Moment}
    (trace : Sync.Trace target moments) : Budget [target] 0 moments := by
  -- without a write there is nothing to go back to a read
  have reading : ∀ {moments : List Moment},
      (∀ m ∈ moments, m.call.kind = .gateway → m.call.method = .get) →
      moments.countP Moment.changesRoute ≤ 0 → Budget [target] 0 moments :=
    fun reads within => (Budget.of_reads reads within).weaken (List.nil_sublist _) (Nat.le_refl 0)
  cases trace with
  | read met reply =>
    refine reading (fun m made _ => ?_) (Nat.le_refl 0)
    cases List.mem_singleton.1 made
    rfl
  | listed met met' reply listing =>
    refine reading (fun m made about => ?_) (Nat.le_refl 0)
    rcases List.mem_pair.1 made with rfl | rfl
    · rfl
    · cases about
  | written read write met listing backs =>
    obtain ⟨readsGateway, writesGateway⟩ := backs.onGateways
    constructor
    · intro earlier m later split about writes
      -- the write is the third call: of the other two, one reads and one is about routes
      rcases earlier with _ | ⟨first, _ | ⟨second, _ | ⟨third, rest⟩⟩⟩
      · cases split
        cases backs <;> exact absurd rfl writes
      · cases split
        cases about
      · cases split
        refine ⟨[], read, [_], rfl, ?_, target, List.mem_singleton_self _, backs⟩
        intro other between
        cases List.mem_singleton.1 between
        rfl
      · simp at split
    · intro other
      obtain ⟨reads, writes⟩ := backs.writesGateway other
      have lists : (Call.routes .list).writesGateway other = false := rfl
      by_cases same : target = other <;> simp [reads, writes, lists, same]
    · simp [Moment.changesRoute, readsGateway, writesGateway, Call.isWrite, Request.isWrite,
        Request.method]

-- ============================================================ attempts

/-- At most one write of a route goes through, and ends the script well. -/
def Script.ChangesOnce (s : Script StoreError α) : Prop :=
  ∀ w, (s.run w).moments.countP Moment.changesRoute ≤ (s.run w).result.isOk.toNat

theorem changesOnce_done (result : Except StoreError α) :
    (Script.done result).ChangesOnce := fun _ => Nat.zero_le _

/-- Reading the route writes nothing. -/
theorem changesOnce_getRoute_bind {key : ObjectRef} {f : Option Route → Script StoreError α}
    (rest : ∀ found, (f found).ChangesOnce) : (Routes.get key >>= f).ChangesOnce := by
  intro w
  unfold Routes.get
  rw [run_bind, run_request]
  cases (w.answer (.routes (.get key))).reply with
  | error e => exact Nat.le_refl 0
  | ok found => exact rest found _

/-- A last call that goes through ends the script well, whatever is made of its failure. -/
theorem changesOnce_last {c : Call} {next : c.Reply → Script StoreError α}
    (ok : ∀ answer, ∃ value, next (.ok answer) = .done (.ok value))
    (error : ∀ e, ∃ result, next (.error e) = .done result) : (Script.call c next).ChangesOnce := by
  intro w
  simp only [Script.run]
  cases reply : (w.answer c).reply with
  | ok answer =>
    obtain ⟨value, ends⟩ := ok answer
    rw [ends]
    exact List.countP_le_length
  | error e =>
    obtain ⟨result, ends⟩ := error e
    rw [ends]
    simp [Script.run, Run.preceded, Moment.changesRoute, Except.isOk, Except.toBool]

/-- No call is about a gateway, and at most one write goes through, which ends the
script well. -/
structure Attempt (s : Script StoreError α) : Prop where
  routes : s.Makes fun c => c.kind = .httpRoute
  once : s.ChangesOnce

/-- An attempt that fails has written nothing. -/
theorem Attempt.budget {s : Script StoreError α} (h : Attempt s) (w : Cluster) :
    Budget [] (s.run w).result.isOk.toNat (s.run w).moments := by
  refine Budget.of_reads (fun m made about => ?_) (h.once w)
  cases (h.routes.moments w m made).symm.trans about

/-- An attempt at holding a route is one. -/
theorem attempt_addFinalizerOnce (key : ObjectRef) :
    Attempt (Reconcile.addFinalizerOnce key) where
  routes := makes_addFinalizerOnce (fun _ => rfl) key
  once := Reconcile.addFinalizerOnce_elim key (K := fun _ => Script.ChangesOnce)
    (fun _ => changesOnce_getRoute_bind) (changesOnce_done _) (fun _ _ => changesOnce_done _)
    fun _ _ => changesOnce_last (fun _ => ⟨(), rfl⟩) fun e => ⟨.error e, rfl⟩

/-- An attempt at letting a route go is one. -/
theorem attempt_removeFinalizerOnce (key : ObjectRef) :
    Attempt (Reconcile.removeFinalizerOnce key) where
  routes := makes_removeFinalizerOnce (fun _ => rfl) key
  once := Reconcile.removeFinalizerOnce_elim key (K := fun _ => Script.ChangesOnce)
    (fun _ => changesOnce_getRoute_bind) (changesOnce_done _) (fun _ _ => changesOnce_done _)
    fun _ _ => changesOnce_last (fun _ => ⟨(), rfl⟩) fun e => ⟨Reconcile.letGo (.error e), rfl⟩

/-- Attempts at a route end with the first that writes it. -/
theorem budget_retryFrom {act : Script StoreError α} (once : Attempt act)
    (attempt left : Nat) (w : Cluster) :
    Budget [] 1 ((retryFrom (pure ()) (act.attempt : Script ε _) attempt left).run w).moments := by
  induction left generalizing attempt w with
  | zero =>
    rw [retryFrom, moments_attempt_bind]
    have made := once.budget w
    cases ended : (act.run w).result with
    | ok value =>
      rw [ended] at made
      exact made.append .nil
    | error cause =>
      rw [ended] at made
      exact (made.append .nil).weaken (List.Sublist.refl _) (Nat.zero_le 1)
  | succ left ih =>
    rw [retryFrom, moments_attempt_bind]
    have made := once.budget w
    cases ended : (act.run w).result with
    | ok value =>
      rw [ended] at made
      exact made.append .nil
    | error cause =>
      rw [ended] at made
      dsimp only
      split
      · exact made.append (ih (attempt + 1) (act.run w).cluster)
      · exact (made.append .nil).weaken (List.Sublist.refl _) (Nat.zero_le 1)

/-- However often it is tried, one update goes through at most. -/
theorem budget_updating (config : Config) {act : Script StoreError Unit} (once : Attempt act)
    (w : Cluster) : Budget [] 1 ((Reconcile.updating config act).run w).moments := by
  rw [Reconcile.updating_eq]
  refine (budget_retryFrom once 1 _ w).last fun result w => ?_
  cases result <;> rfl

-- ================================================================ events

section Event

variable {config : Config} {key : ObjectRef} {w : Cluster}

/-- Gateways that are refreshed in turn are written once for each time that they come
up. -/
theorem budget_refreshAll (targets : List ObjectRef) (w : Cluster) :
    Budget targets 0 ((Reconcile.refreshAll targets).run w).moments := by
  induction targets generalizing w with
  | nil => exact .nil
  | cons target rest ih => exact (trace_refresh target w).budget.bind fun _ => ih

/-- The former gateway may be written, if there is one. -/
theorem budget_leavePrevious (route : Route) (current : ObjectRef) (w : Cluster) :
    Budget (Reconcile.leftGateway? route current).toList 0
      ((Reconcile.leavePrevious route current).run w).moments := by
  refine Reconcile.leavePrevious_elim route current
    (J := fun s => Budget (Reconcile.leftGateway? route current).toList 0 (s.run w).moments)
    (fun _ => Budget.nil.weaken (List.nil_sublist _) (Nat.le_refl 0)) fun previous left => ?_
  rw [left, moments_attempt_bind]
  exact (trace_refresh previous w).budget.append .nil

/-- The bookkeeping is one write of the route. -/
theorem budget_record (config : Config) (key : ObjectRef) (route : Route) (current : ObjectRef)
    (w : Cluster) : Budget [] 1 ((Reconcile.record config key route current).run w).moments := by
  refine Reconcile.record_elim config key route current
    (J := fun s => Budget [] 1 (s.run w).moments)
    (fun _ => Budget.nil.weaken (List.Sublist.refl _) (Nat.zero_le 1)) fun _ => ?_
  unfold Routes.apply
  rw [lift_store_event, moments_request_last _ _ fun _ _ => rfl]
  refine .of_reads (fun m made about => ?_) List.countP_le_length
  cases List.mem_singleton.1 made
  cases about

/-- A deleting route has its gateways refreshed and is written once. -/
theorem budget_finalize (route : Route) :
    Budget (Reconcile.formerGateways route) 1
      ((Reconcile.finalize config key route).run w).moments := by
  have refreshed : Budget (Reconcile.formerGateways route) 0
      (((Reconcile.refreshAll (Reconcile.formerGateways route)).mapError
        ReconcileError.ofSync).run w).moments := by
    rw [moments_mapError]
    exact budget_refreshAll _ w
  have released : ∀ w, Budget [] 1 ((Reconcile.updating config
      (Reconcile.removeFinalizerOnce key) >>= fun _ => pure Outcome.finalized).run w).moments :=
    fun w => (budget_updating config (attempt_removeFinalizerOnce key) w).last fun _ _ => rfl
  rw [Reconcile.finalize_eq]
  exact (refreshed.bind fun _ => released).weaken (by simp) (Nat.le_refl 1)

/-- A live route is written once, for its finalizer or for its bookkeeping. -/
theorem budget_serve (route : Route) (current : ObjectRef) (w : Cluster) :
    Budget [current] 1 ((Reconcile.serve config key route current).run w).moments := by
  refine Reconcile.serve_elim config key route current
    (J := fun s => Budget [current] 1 (s.run w).moments) (fun _ => ?_) fun _ => ?_
  · exact ((budget_updating config (attempt_addFinalizerOnce key) w).last fun _ _ => rfl).weaken
      (List.nil_sublist _) (Nat.le_refl 1)
  · have ensured : ∀ w, Budget [current] 0 (((Sync.ensure config current
        (route.settings.effective config)).mapError ReconcileError.ofSync).run w).moments := by
      intro w
      rw [moments_mapError]
      exact (trace_ensure config current _ w).budget
    have recorded := budget_record config key route current w
    exact recorded.bind fun _ w => (ensured w).last fun _ _ => rfl

/-- The former gateway and then the present one may be written. -/
theorem budget_attach (route : Route) (current : ObjectRef) :
    Budget ((Reconcile.leftGateway? route current).toList ++ [current]) 1
      ((Reconcile.attach config key route current).run w).moments := by
  rw [attach_eq]
  exact (budget_leavePrevious route current w).bind fun _ => budget_serve route current

/-- The gateways that an event may write, by what it does with its route. -/
theorem budget_handle (config : Config) (key : ObjectRef) (route : Route) (w : Cluster) :
    ∃ targets : List ObjectRef, targets.Nodup
      ∧ (∀ target ∈ targets, route.parent? = some target ∨ route.settings.previous? = some target)
      ∧ Budget targets 1 ((Reconcile.handle config key route).run w).moments := by
  have idle : Budget [] 1 [] := Budget.nil.weaken (List.Sublist.refl _) (Nat.zero_le 1)
  refine Reconcile.handle_elim config key route (J := fun s => ∃ targets : List ObjectRef,
      targets.Nodup ∧ (∀ target ∈ targets, route.parent? = some target
        ∨ route.settings.previous? = some target) ∧ Budget targets 1 (s.run w).moments)
    (fun _ _ => ⟨_, nodup_formerGateways route, fun _ => Reconcile.mem_formerGateways.1,
      budget_finalize route⟩)
    (fun _ _ => ⟨[], .nil, nofun, idle⟩) (fun _ _ _ => ⟨[], .nil, nofun, idle⟩)
    (fun _ _ _ => ⟨[], .nil, nofun, idle⟩) fun current _ _ parent => ?_
  refine ⟨_, ?_, fun target listed => ?_, budget_attach route current⟩
  · cases left : Reconcile.leftGateway? route current with
    | none => simp
    | some former => simpa using (leftGateway?_eq_some left).1
  · rcases List.mem_append.1 listed with former | served
    · exact .inr (leftGateway?_eq_some (Option.mem_toList.1 former)).2
    · exact .inl (by rw [List.mem_singleton.1 served]; exact parent)

end Event

/-- The event of the key reads the route, which is what it then handles. -/
def Cluster.Loads (w : Cluster) (key : ObjectRef) (route : Route) : Prop :=
  (w.answer (.routes (.get key))).reply = .ok (some route)

/-- Every write of a gateway is of one that may be written and goes back to a read
of it, no gateway is written twice, and one write of a route went through at most. -/
structure Guarded (mayWrite : ObjectRef → Prop) (moments : List Moment) : Prop where
  backed : ∀ earlier m later, moments = earlier ++ m :: later →
    m.call.kind = .gateway → m.call.method ≠ .get → m.BackedBy mayWrite earlier
  once : ∀ target, moments.countP (·.call.writesGateway target) ≤ 1
  routes : moments.countP Moment.changesRoute ≤ 1

theorem Budget.guarded {targets : List ObjectRef} {changes : Nat} {moments : List Moment}
    {mayWrite : ObjectRef → Prop} (h : Budget targets changes moments) (nodup : targets.Nodup)
    (within : changes ≤ 1) (known : ∀ target ∈ targets, mayWrite target) :
    Guarded mayWrite moments where
  backed earlier m later split about writes := by
    obtain ⟨before, read, between, shape, routesOnly, target, listed, backs⟩ :=
      h.backed earlier m later split about writes
    exact ⟨before, read, between, shape, routesOnly, target, known target listed, backs⟩
  once target := Nat.le_trans (h.gateways target) (List.nodup_iff_count_le_one.1 nodup target)
  routes := Nat.le_trans h.routes within

theorem Sync.Trace.guarded {target : ObjectRef} {moments : List Moment}
    (trace : Sync.Trace target moments) : Guarded (· = target) moments :=
  trace.budget.guarded (List.nodup_singleton target) (Nat.zero_le 1) fun _ =>
    List.mem_singleton.1

theorem guarded_reconcile (config : Config) (w : Cluster) (key : ObjectRef) :
    Guarded (fun target => ∃ route, w.Loads key route
        ∧ (route.parent? = some target ∨ route.settings.previous? = some target))
      ((reconcile config key).run w).moments := by
  have readsRoute : Budget [] 0 [⟨(w.answer (.routes (.get key))).met, .routes (.get key),
      (w.answer (.routes (.get key))).reply⟩] := by
    refine .of_reads (fun m made about => ?_) (Nat.le_refl 0)
    cases List.mem_singleton.1 made
    cases about
  rw [moments_reconcile]
  rcases loaded : (w.answer (.routes (.get key))).reply with e | _ | route
  · rw [loaded] at readsRoute
    exact readsRoute.guarded .nil (Nat.zero_le 1) nofun
  · rw [loaded] at readsRoute
    exact readsRoute.guarded .nil (Nat.zero_le 1) nofun
  · rw [loaded] at readsRoute
    obtain ⟨targets, nodup, mentioned, handled⟩ :=
      budget_handle config key route (w.answer (.routes (.get key))).after
    exact (readsRoute.append handled).guarded nodup (Nat.le_refl 1) fun target listed =>
      ⟨route, loaded, mentioned target listed⟩

/-- Whatever calls are answered with and whatever others write meanwhile: an event
writes only gateways that the route which it has read mentions, a sync only its
own. Each write is made from a read that no other gateway call comes after. A
missing gateway is created, a found one gets other listeners or is deleted, in the
version that was found; listeners are never none and never two of one name. Each
gateway is written once at most, and one write of a route goes through at most. -/
theorem gateway_writes_are_guarded (config : Config) (w : Cluster) :
    (∀ key, Guarded (fun target => ∃ route, w.Loads key route
        ∧ (route.parent? = some target ∨ route.settings.previous? = some target))
      ((reconcile config key).run w).moments)
    ∧ (∀ target settings,
      Guarded (· = target) ((Sync.ensure config target settings).run w).moments)
    ∧ ∀ target, Guarded (· = target) ((Sync.refresh target).run w).moments :=
  ⟨guarded_reconcile config w,
    fun target settings => (trace_ensure config target settings w).guarded,
    fun target => (trace_refresh target w).guarded⟩

end SharedGateway
