/-
The controller around the events of all routes: it counts how often each route
has failed in a row and decides when a route is delivered again. The stores may
change in any way between two events; the counts change with events alone.
-/
import SharedGateway.Cluster.Run
import SharedGateway.Reconcile
import SharedGateway.Retry.Backoff
import SharedGateway.Retry.Tracker

namespace SharedGateway

/-- An event: the identity of a route that changed or is due again. -/
structure Event where
  ns : Option String
  name : String
  deriving DecidableEq, Repr

namespace Event

/-- The route that the event is about, if it states a namespace. -/
def route? (e : Event) : Option ObjectRef :=
  e.ns.map fun ns => ⟨ns, e.name⟩

/-- The text under which a failure of the event is counted. It may fail for want of
a namespace, which is written as an empty one. -/
def trackerKey (e : Event) : String :=
  e.ns.getD "" ++ "/" ++ e.name

/-- What the event does. -/
def script (config : Config) (e : Event) : Script ReconcileError Outcome :=
  match e.route? with
  | none => .fail (.missingField "metadata.namespace")
  | some route => reconcile config route

end Event

/-- How an event ended and when its route is delivered again. -/
inductive Delivery where
  | completed (outcome : Outcome) (action : Action)
  | failed (kind : FailureKind) (attempt : Nat) (route : String) (action : Action)
  deriving DecidableEq, Repr

namespace Controller

/-- A route in sync is looked at again after that many seconds. -/
def resyncInterval : Nat := 300

/-- Whether a failed event is worth another try without a change. -/
def classify : ReconcileError → FailureKind
  | .store _ => .transient
  | .retriesExhausted _ _ => .transient
  | .policy _ => .permanent
  | .missingField _ => .permanent

/-- When a route is delivered again after a success. -/
def afterSuccess : Outcome → Action
  | .synced _ => .requeue resyncInterval
  | _ => .awaitChange

/-- The counts after a success of the event, which takes a route. -/
def forget (tracker : Tracker) (e : Event) : Tracker :=
  match e.route? with
  | none => tracker
  | some route => tracker.reset route.toText

/-- The delivery that an event's result makes, and the counts after it. -/
def settle (tracker : Tracker) (e : Event) :
    Except ReconcileError Outcome → Delivery × Tracker
  | .ok outcome => (.completed outcome (afterSuccess outcome), forget tracker e)
  | .error error =>
    let tracker := tracker.increment e.trackerKey
    let attempt := tracker.count e.trackerKey
    let kind := classify error
    (.failed kind attempt e.trackerKey (Backoff.after attempt kind), tracker)

/-- Runs an event in a cluster. -/
def deliver (config : Config) (tracker : Tracker) (e : Event) (w : Cluster) :
    Run Delivery × Tracker :=
  let run := (e.script config).run w
  let (delivery, tracker) := settle tracker e run.result
  (run.map fun _ => delivery, tracker)

end Controller

end SharedGateway
