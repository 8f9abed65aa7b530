/-
Scripts: what the operator does, as a tree of store calls. A script is finished,
or makes one call and goes on with whatever comes back. It says which calls are
made and how their answers are used, and nothing of the store that answers: the
same script runs against a store in memory, one that fails at will, or one that
others write to between any two calls.
-/
import SharedGateway.Cluster.Call

namespace SharedGateway

/-- A computation that makes store calls and ends with a value or an error. -/
inductive Script (ε α : Type) where
  | done (result : Except ε α)
  | call (c : Call) (next : c.Reply → Script ε α)

namespace Script

variable {ε ε' α β : Type}

-- ============================================================ sequence

/-- Goes on with the value of a script; an error ends the whole. -/
def bind (s : Script ε α) (f : α → Script ε β) : Script ε β :=
  match s with
  | .done (.ok a) => f a
  | .done (.error e) => .done (.error e)
  | .call c next => .call c fun reply => (next reply).bind f

instance : Monad (Script ε) where
  pure a := .done (.ok a)
  bind := bind

/-- The script that fails at once. -/
def fail (e : ε) : Script ε α := .done (.error e)

/-- One call. -/
def request (c : Call) : Script StoreError c.Answer := .call c .done

theorem pure_bind (a : α) (f : α → Script ε β) : (pure a >>= f) = f a := rfl

theorem fail_bind (e : ε) (f : α → Script ε β) : ((fail e : Script ε α) >>= f) = fail e := rfl

theorem call_bind (c : Call) (next : c.Reply → Script ε α) (f : α → Script ε β) :
    (Script.call c next >>= f) = .call c fun reply => next reply >>= f := rfl

theorem bind_pure (s : Script ε α) : (s >>= pure) = s := by
  induction s with
  | done result => cases result <;> rfl
  | call c next ih => exact congrArg (Script.call c) (funext ih)

theorem bind_assoc {γ : Type} (s : Script ε α) (f : α → Script ε β) (g : β → Script ε γ) :
    ((s >>= f) >>= g) = (s >>= fun a => f a >>= g) := by
  induction s with
  | done result => cases result <;> rfl
  | call c next ih => exact congrArg (Script.call c) (funext ih)

-- ============================================================== errors

/-- The script with its error reworded. -/
def mapError (f : ε → ε') : Script ε α → Script ε' α
  | .done result => .done (result.mapError f)
  | .call c next => .call c fun reply => (next reply).mapError f

/-- The script with its error handed over as a value, so that it cannot fail. -/
def attempt : Script ε α → Script ε' (Except ε α)
  | .done result => .done (.ok result)
  | .call c next => .call c fun reply => (next reply).attempt

/-- The value of an outcome, or its error as the script's own. -/
def ofExcept : Except ε α → Script ε α := .done

end Script

-- ================================================================ calls

namespace Routes

/-- Reads a route. -/
def get (key : ObjectRef) : Script StoreError (Option Route) :=
  Script.request (.routes (.get key))

/-- Reads all routes. -/
def list : Script StoreError (List Route) :=
  Script.request (.routes .list)

/-- Merges a patch into a route. -/
def merge (key : ObjectRef) (patch : Json) : Script StoreError Route :=
  Script.request (.routes (.merge key patch))

/-- Applies a value to a route. -/
def apply (key : ObjectRef) (value : Json) (manager : String) : Script StoreError Route :=
  Script.request (.routes (.apply key value manager))

end Routes

namespace Gateways

/-- Reads a gateway. -/
def get (key : ObjectRef) : Script StoreError (Option Gateway) :=
  Script.request (.gateways (.get key))

/-- Creates a gateway. -/
def create (gateway : Gateway) : Script StoreError Gateway :=
  Script.request (.gateways (.create gateway))

/-- Merges a patch into a gateway. -/
def merge (key : ObjectRef) (patch : Json) : Script StoreError Gateway :=
  Script.request (.gateways (.merge key patch))

/-- Deletes a gateway. -/
def delete (key : ObjectRef) (version : Option String) : Script StoreError Unit :=
  Script.request (.gateways (.delete key version))

end Gateways

end SharedGateway
