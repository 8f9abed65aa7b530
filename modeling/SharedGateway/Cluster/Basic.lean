/-
The cluster as a script meets it: the two stores, and the disturbances planned
for coming calls. A disturbance lets others write just before a call, makes the
call fail without reaching its store, or both. A cluster without plans answers
every call by the rules of its stores alone.
-/
import SharedGateway.Cluster.Call
import SharedGateway.Store.Basic

namespace SharedGateway

-- ================================================================ edits

/-- Something done to a store from outside. -/
inductive StoreEdit (σ : Type) where
  /-- A request that another client makes. -/
  | request (r : Request σ)
  /-- An object put in place, whatever was there. -/
  | put (object : Object σ)
  | queueConflicts (n : Nat)
  | failNextCreate
  | vanishBeforeMerge

/-- The store after an edit, whether or not a request succeeded. -/
def Store.edit {σ : Type} [Spec σ] (s : Store σ) : StoreEdit σ → Store σ
  | .request r => (s.perform r).2
  | .put object => (s.put object).2
  | .queueConflicts n => { s with queuedConflicts := n }
  | .failNextCreate => { s with failNextCreate := true }
  | .vanishBeforeMerge => { s with vanishBeforeMerge := true }

/-- An edit of one of the two stores. -/
inductive Edit where
  | routes (edit : StoreEdit RouteSpec)
  | gateways (edit : StoreEdit GatewaySpec)

-- ========================================================= disturbances

/-- How a call can fail without reaching its store. -/
inductive Fault where
  | notFound
  | alreadyExists
  | conflict
  | invalidObject
  | serialization
  /-- An error answer that is passed on as it is. -/
  | status (code : Nat)
  deriving DecidableEq, Repr

/-- The error that a call about the object of that kind and key reports. -/
def Fault.error (kind key : String) : Fault → StoreError
  | .notFound => .notFound kind key
  | .alreadyExists => .alreadyExists kind key
  | .conflict => .conflict kind key
  | .invalidObject => .invalidObject "injected"
  | .serialization => .serialization
  | .status code => .api ⟨"Failure", code, "Injected", "injected"⟩

/-- What happens to one call. -/
structure Disturbance where
  /-- Done by others just before the call. -/
  before : List Edit := []
  /-- The failure of the call, if it fails. -/
  fault : Option Fault := none

/-- The calls that one plan is for: those of one method of one store. -/
structure Site where
  kind : Kind
  method : Method
  deriving DecidableEq, Repr

/-- The site of a call. -/
def Call.site (c : Call) : Site :=
  ⟨c.kind, c.method⟩

-- ============================================================== cluster

/-- The two stores, and for every site the disturbances of its next calls. -/
structure Cluster where
  routes : Store RouteSpec := {}
  gateways : Store GatewaySpec := {}
  plans : Site → List Disturbance := fun _ => []

namespace Cluster

/-- The cluster after an edit. -/
def edit (w : Cluster) : Edit → Cluster
  | .routes edit => { w with routes := w.routes.edit edit }
  | .gateways edit => { w with gateways := w.gateways.edit edit }

/-- The cluster with a plan for a site in place of its old one. -/
def plan (w : Cluster) (site : Site) (disturbances : List Disturbance) : Cluster :=
  { w with plans := fun other => if other = site then disturbances else w.plans other }

/-- Takes the next disturbance of the site and lets it do its edits. -/
def disturb (w : Cluster) (site : Site) : Option Fault × Cluster :=
  match w.plans site with
  | [] => (none, w)
  | next :: rest => (next.fault, next.before.foldl edit (w.plan site rest))

/-- What the call's store answers, and the cluster after it. -/
def perform (w : Cluster) : (c : Call) → c.Reply × Cluster
  | .routes request =>
    let (reply, routes) := w.routes.perform request
    (reply, { w with routes })
  | .gateways request =>
    let (reply, gateways) := w.gateways.perform request
    (reply, { w with gateways })

/-- The error of a call that meets a fault. -/
def faultError (c : Call) (fault : Fault) : StoreError :=
  fault.error c.kind.toText ((c.key?.map ObjectRef.toText).getD "")

end Cluster

end SharedGateway
