/-
Gateways: the class that implements a gateway, its listeners, and annotations
for the infrastructure behind it.
-/
import SharedGateway.Gateway.Listener
import SharedGateway.Object

namespace SharedGateway

open Json (Document)

/-- Metadata for what the implementation of a gateway provisions. -/
structure Infrastructure where
  annotations : Table String String := .empty
  deriving DecidableEq

namespace Infrastructure

/-- The members of the record in their order. -/
def names : List String :=
  ["annotations"]

/-- Reads infrastructure metadata. -/
def read? (d : Document) : Option Infrastructure := do
  let members ← d.record? names
  let annotations ← Document.defaulted? members "annotations" .empty Document.textTable?
  some { annotations }

/-- The written form. -/
def toJson (i : Infrastructure) : Json :=
  Json.object [("annotations", Json.textTableOrAbsent i.annotations)]

end Infrastructure

/-- The specification of a gateway. -/
structure GatewaySpec where
  className : String
  listeners : List Listener := []
  infrastructure : Option Infrastructure := none
  deriving DecidableEq

namespace GatewaySpec

/-- The members of the record in their order. -/
def names : List String :=
  ["gatewayClassName", "listeners", "infrastructure"]

/-- Reads a gateway's specification. -/
def read? (d : Document) : Option GatewaySpec := do
  let members ← d.record? names
  let className ← Document.required? members "gatewayClassName" Document.text?
  let listeners ← Document.defaulted? members "listeners" [] (Document.list? Listener.read?)
  let infrastructure ← Document.optional? members "infrastructure" Infrastructure.read?
  some { className, listeners, infrastructure }

/-- The written form; the listeners are written even when there are none. -/
def toJson (s : GatewaySpec) : Json :=
  Json.object [
    ("gatewayClassName", some (.str s.className)),
    ("infrastructure", s.infrastructure.map Infrastructure.toJson),
    ("listeners", some (.arr (s.listeners.map Listener.toJson)))]

instance : Spec GatewaySpec where
  kind := .gateway
  read? := read?
  toJson := toJson

end GatewaySpec

/-- A gateway. -/
abbrev Gateway := Object GatewaySpec

end SharedGateway
