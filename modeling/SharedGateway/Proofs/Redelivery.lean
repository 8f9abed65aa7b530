/-
When a route is delivered again.

# Counting

The controller counts failures by the written name of a route, and different routes
are written differently as long as no namespace holds a slash. So an event moves the
count of its own route alone (`count_deliver`): up by one if it failed, to none if it
succeeded. The number of failures in a row at the end of a history moves in the same
way (`streak_append`). So by induction over the history, taken from its end, the
count is that number (`count_tracked`), whatever the stores hold at each event and
whatever other routes did in between.

# Answering

The answer to an event follows from how it ended and from that number (`Answers`). A
sync that went well is repeated after a while, every other success waits for a
change. A failure that may pass on its own is tried again after five seconds, and
after twice as long each time, as long as fewer than ten were counted; the tenth in a
row, and any failure that will not pass, waits for a change. The bound on the delay
is beyond the ninth, so it is never met (`Backoff.delay_eq`).

Of all counts an answer takes that of its own route (`delivery_congr`), so without an
event of one route the counts and answers of all others would be the same
(`redelivery_follows_own_failures`).
-/
import Mathlib.Data.List.Induction
import SharedGateway.Controller
import SharedGateway.Proofs.References

namespace SharedGateway

-- ============================================================= histories

/-- An event of a route, in the cluster as it is then. -/
structure Occasion where
  route : ObjectRef
  cluster : Cluster

namespace Occasion

variable (config : Config) (o : Occasion)

/-- What triggers it. -/
def event : Event :=
  ⟨some o.route.ns, o.route.name⟩

/-- How the event ends. -/
def result : Except ReconcileError Outcome :=
  ((reconcile config o.route).run o.cluster).result

/-- Does the event fail? -/
def fails : Bool :=
  !(o.result config).isOk

/-- The delivery that the event makes, after the failures that were counted. -/
def delivery (tracker : Tracker) : Delivery :=
  (Controller.deliver config tracker o.event o.cluster).1.result

end Occasion

variable {config : Config}

/-- The counts after the events of a history. -/
def tracked (config : Config) (history : List Occasion) : Tracker :=
  history.foldl (fun tracker o => (Controller.deliver config tracker o.event o.cluster).2) {}

/-- How often the route has failed at the end of a history, since it last succeeded or
since the start. -/
def streak (config : Config) (route : ObjectRef) (history : List Occasion) : Nat :=
  ((history.filter (·.route = route)).reverse.takeWhile (·.fails config)).length

-- ============================================================== counting

/-- The last event moves the counts that the others have left. -/
theorem tracked_append (config : Config) (history : List Occasion) (o : Occasion) :
    tracked config (history ++ [o])
      = (Controller.deliver config (tracked config history) o.event o.cluster).2 := by
  rw [tracked, List.foldl_append]
  rfl

/-- The last event makes one more failure of its own route, or none. -/
theorem streak_append (config : Config) (route : ObjectRef) (history : List Occasion)
    (o : Occasion) : streak config route (history ++ [o])
      = if o.route = route then if o.fails config then streak config route history + 1 else 0
        else streak config route history := by
  unfold streak
  rw [List.filter_append, List.reverse_append]
  by_cases own : o.route = route
  · cases failed : o.fails config <;> simp [own, failed]
  · simp [own]

theorem streak_of_other {route : ObjectRef} {o : Occasion} (other : o.route ≠ route)
    (earlier later : List Occasion) :
    streak config route (earlier ++ o :: later) = streak config route (earlier ++ later) := by
  simp [streak, other]

/-- A delivery settles the event by how it ended, in the cluster as it was then. -/
theorem deliver_eq (tracker : Tracker) (o : Occasion) :
    Controller.deliver config tracker o.event o.cluster
      = (((reconcile config o.route).run o.cluster).map fun _ =>
          (Controller.settle tracker o.event (o.result config)).1,
        (Controller.settle tracker o.event (o.result config)).2) := rfl

/-- An event counts for the text of its own route alone. -/
theorem count_deliver (tracker : Tracker) (o : Occasion) (text : String) :
    (Controller.deliver config tracker o.event o.cluster).2.count text
      = if o.route.toText = text then if o.fails config then tracker.count text + 1 else 0
        else tracker.count text := by
  rw [deliver_eq, Occasion.fails]
  cases o.result config with
  | ok outcome => exact Tracker.count_reset tracker o.route.toText text
  | error e =>
    refine (Tracker.count_increment tracker o.event.trackerKey text).trans ?_
    by_cases own : o.route.toText = text
    · subst own
      rfl
    · have other : o.event.trackerKey ≠ text := own
      rw [if_neg other, if_neg own]

/-- The count of a route is the number of its failures in a row. -/
theorem count_tracked (config : Config) {history : List Occasion}
    (slashFree : ∀ o ∈ history, o.route.SlashFree) {route : ObjectRef}
    (slashFree' : route.SlashFree) :
    (tracked config history).count route.toText = streak config route history := by
  induction history using List.reverseRecOn with
  | nil => rfl
  | append_singleton history o ih =>
    have counted := ih fun o earlier => slashFree o (List.mem_append_left _ earlier)
    have own : o.route.toText = route.toText ↔ o.route = route :=
      ObjectRef.toText_inj (slashFree o (by simp)) slashFree'
    rw [tracked_append, count_deliver, streak_append, counted]
    simp only [own]

-- ============================================================== answering

/-- What failed may pass on its own: a store did, or others kept writing to the
route. -/
def ReconcileError.MayPass (e : ReconcileError) : Prop :=
  (∃ cause, e = .store cause) ∨ ∃ attempts cause, e = .retriesExhausted attempts cause

theorem classify_of_mayPass {e : ReconcileError} (passing : e.MayPass) :
    Controller.classify e = .transient := by
  rcases passing with ⟨cause, rfl⟩ | ⟨attempts, cause, rfl⟩ <;> rfl

/-- What will not pass is not. -/
theorem classify_of_lasting {e : ReconcileError} (lasting : ¬ e.MayPass) :
    Controller.classify e = .permanent := by
  cases e with
  | store cause => exact absurd (.inl ⟨cause, rfl⟩) lasting
  | policy violation => rfl
  | retriesExhausted attempts cause => exact absurd (.inr ⟨attempts, cause, rfl⟩) lasting
  | missingField field => rfl

/-- When the route is delivered again. -/
def Delivery.action : Delivery → Action
  | .completed _ action => action
  | .failed _ _ _ action => action

/-- The right answer to an event that ended so, after that many failures in a row with
its own. -/
structure Answers (result : Except ReconcileError Outcome) (failures : Nat) (action : Action) :
    Prop where
  synced : ∀ sync, result = .ok (.synced sync) → action = .requeue 300
  unsynced : ∀ outcome, result = .ok outcome → (∀ sync, outcome ≠ .synced sync) →
    action = .awaitChange
  passing : ∀ e, result = .error e → e.MayPass → failures < 10 →
    action = .requeue (5 * Nat.pow 2 (failures - 1))
  lasting : ∀ e, result = .error e → ¬ (e.MayPass ∧ failures < 10) → action = .awaitChange

/-- The delays that are reached at all are below the longest. -/
theorem Backoff.delay_eq {attempt : Nat} (few : attempt < maxRetries) :
    delay attempt = 5 * Nat.pow 2 (attempt - 1) := by
  have early : attempt - 1 ≤ 8 := Nat.sub_le_of_le_add (Nat.le_of_lt_succ few)
  have exponent : min (attempt - 1) 31 = attempt - 1 := by omega
  have bounded : Nat.pow 2 (attempt - 1) ≤ Nat.pow 2 8 := Nat.pow_le_pow_right (by decide) early
  have short : 5 * Nat.pow 2 (attempt - 1) ≤ 3600 :=
    Nat.le_trans (Nat.mul_le_mul_left 5 bounded) (by decide)
  rw [delay, exponent, baseDelay, maxDelay, Nat.min_eq_left short]

/-- A failure is answered by its kind and by the number of failures. -/
theorem answers_after (e : ReconcileError) (failures : Nat) :
    Answers (.error e) failures (Backoff.after failures (Controller.classify e)) where
  synced _ ended := nomatch ended
  unsynced _ ended := nomatch ended
  passing cause ended passing few := by
    cases ended
    have few : failures < Backoff.maxRetries := few
    rw [classify_of_mayPass passing, Backoff.after, if_neg (Nat.not_le.2 few),
      Backoff.delay_eq few]
  lasting cause ended lasting := by
    cases ended
    by_cases passing : e.MayPass
    · have many : Backoff.maxRetries ≤ failures := Nat.not_lt.1 fun few => lasting ⟨passing, few⟩
      rw [classify_of_mayPass passing, Backoff.after, if_pos many]
    · rw [classify_of_lasting passing, Backoff.after]

/-- A success is answered by its outcome. -/
theorem answers_afterSuccess (outcome : Outcome) (failures : Nat) :
    Answers (.ok outcome) failures (Controller.afterSuccess outcome) where
  synced sync ended := by
    cases ended
    rfl
  unsynced outcome' ended unsynced := by
    cases ended
    cases outcome with
    | synced sync => exact absurd rfl (unsynced sync)
    | _ => rfl
  passing _ ended := nomatch ended
  lasting _ ended := nomatch ended

/-- An event that fails is counted before it is answered, under the name of its route. -/
theorem delivery_of_error {o : Occasion} {e : ReconcileError} (failed : o.result config = .error e)
    (tracker : Tracker) : o.delivery config tracker
      = .failed (Controller.classify e) (tracker.count o.route.toText + 1) o.route.toText
        (Backoff.after (tracker.count o.route.toText + 1) (Controller.classify e)) := by
  have counted : (tracker.increment o.route.toText).count o.route.toText
      = tracker.count o.route.toText + 1 :=
    (Tracker.count_increment tracker _ _).trans (if_pos rfl)
  rw [Occasion.delivery, deliver_eq, failed, ← counted]
  rfl

/-- An event that ends well is answered as its outcome is. -/
theorem delivery_of_ok {o : Occasion} {outcome : Outcome} (ended : o.result config = .ok outcome)
    (tracker : Tracker) :
    o.delivery config tracker = .completed outcome (Controller.afterSuccess outcome) := by
  rw [Occasion.delivery, deliver_eq, ended]
  rfl

/-- An event is answered rightly after the failures that are counted, its own included.
-/
theorem answers_delivery (config : Config) (tracker : Tracker) (o : Occasion) :
    Answers (o.result config) (tracker.count o.route.toText + 1)
      (o.delivery config tracker).action := by
  cases ended : o.result config with
  | ok outcome =>
    rw [delivery_of_ok ended]
    exact answers_afterSuccess outcome _
  | error e =>
    rw [delivery_of_error ended]
    exact answers_after e _

/-- Of all counts an answer takes that of its own route. -/
theorem delivery_congr {tracker tracker' : Tracker} {o : Occasion}
    (same : tracker.count o.route.toText = tracker'.count o.route.toText) :
    o.delivery config tracker = o.delivery config tracker' := by
  cases ended : o.result config with
  | ok outcome => rw [delivery_of_ok ended, delivery_of_ok ended]
  | error e => rw [delivery_of_error ended, delivery_of_error ended, same]

/-- The number of failures matters to an answer only where the event has failed. -/
theorem Answers.of_failures {result : Except ReconcileError Outcome} {failures failures' : Nat}
    {action : Action} (h : Answers result failures action)
    (same : ∀ e, result = .error e → failures' = failures) : Answers result failures' action where
  synced := h.synced
  unsynced := h.unsynced
  passing e failed := by
    rw [same e failed]
    exact h.passing e failed
  lasting e failed := by
    rw [same e failed]
    exact h.lasting e failed

/-- After any events of any routes in whatever clusters, the count of a route is the
number of its failures in a row. Each event is answered by how it ended and by that
number. Without an event of one route, the counts and the answers of all others
would be the same. -/
theorem redelivery_follows_own_failures (config : Config) {history : List Occasion}
    (slashFree : ∀ o ∈ history, o.route.SlashFree) :
    (∀ route : ObjectRef, route.SlashFree →
      (tracked config history).count route.toText = streak config route history)
    ∧ ∀ earlier o later, history = earlier ++ o :: later →
      Answers (o.result config) (streak config o.route (earlier ++ [o]))
        (o.delivery config (tracked config earlier)).action
      ∧ ∀ other : Occasion, other.route.SlashFree → o.route ≠ other.route →
        (tracked config history).count other.route.toText
            = (tracked config (earlier ++ later)).count other.route.toText
          ∧ other.delivery config (tracked config history)
            = other.delivery config (tracked config (earlier ++ later)) := by
  refine ⟨fun route slashFree' => count_tracked config slashFree slashFree',
    fun earlier o later split => ⟨?_, fun other slashFree' differ => ?_⟩⟩
  · have before : ∀ past ∈ earlier, past.route.SlashFree := fun past made =>
      slashFree past (by rw [split]; exact List.mem_append_left _ made)
    refine (answers_delivery config (tracked config earlier) o).of_failures fun e failed => ?_
    have fails : o.fails config = true := by rw [Occasion.fails, failed]; rfl
    rw [streak_append, if_pos rfl, if_pos fails,
      count_tracked config before (slashFree o (by simp [split]))]
  -- without the event of the one route the history is a shorter one of the same kind
  · have fewer : (earlier ++ later).Sublist history :=
      split ▸ (List.sublist_cons_self o later).append_left earlier
    have spared : ∀ past ∈ earlier ++ later, past.route.SlashFree := fun past made =>
      slashFree past (fewer.subset made)
    have same : (tracked config history).count other.route.toText
        = (tracked config (earlier ++ later)).count other.route.toText := by
      rw [count_tracked config slashFree slashFree', count_tracked config spared slashFree',
        split, streak_of_other differ]
    exact ⟨same, delivery_congr same⟩

/-- Reading a route fails once. -/
def unavailable : Cluster where
  plans site := if site = ⟨.httpRoute, .get⟩ then [{ fault := some (.status 500) }] else []

/-- Two routes fail in turn, one of them twice. -/
def outage : List Occasion := [
  ⟨⟨"apps", "first"⟩, unavailable⟩,
  ⟨⟨"apps", "second"⟩, unavailable⟩,
  ⟨⟨"apps", "first"⟩, unavailable⟩]

theorem unavailable_fails (route : ObjectRef) :
    Occasion.result .standard ⟨route, unavailable⟩
      = .error (.store (.api ⟨"Failure", 500, "Injected", "injected"⟩)) := rfl

/-- The route that failed twice waits twice as long, whatever the other one does. -/
theorem outage_redelivery :
    (tracked .standard outage).count "apps/first" = 2
      ∧ (Occasion.delivery .standard ⟨⟨"apps", "first"⟩, unavailable⟩
        (tracked .standard (outage.take 2))).action = .requeue 10 := by
  have slashFree : ∀ o ∈ outage, o.route.SlashFree := by decide +kernel
  obtain ⟨counts, answers⟩ := redelivery_follows_own_failures .standard slashFree
  obtain ⟨answered, -⟩ := answers (outage.take 2) ⟨⟨"apps", "first"⟩, unavailable⟩ [] rfl
  refine ⟨(counts ⟨"apps", "first"⟩ (by decide +kernel)).trans (by decide +kernel), ?_⟩
  exact answered.passing _ (unavailable_fails _) (.inl ⟨_, rfl⟩) (by decide +kernel)

end SharedGateway
