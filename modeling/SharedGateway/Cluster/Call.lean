/-
Calls: requests to one of the two stores that a cluster keeps, the one of
routes and the one of gateways.
-/
import SharedGateway.Gateway.Basic
import SharedGateway.Route.Basic
import SharedGateway.Store.Request

namespace SharedGateway

/-- A request to the store of one kind. -/
inductive Call where
  | routes (request : Request RouteSpec)
  | gateways (request : Request GatewaySpec)

namespace Call

/-- What a call that succeeds is answered with. -/
abbrev Answer : Call → Type
  | .routes request => request.Answer
  | .gateways request => request.Answer

/-- What comes back from a call. -/
abbrev Reply (c : Call) : Type := Except StoreError c.Answer

/-- The kind of the objects that the call is about. -/
def kind : Call → Kind
  | .routes _ => .httpRoute
  | .gateways _ => .gateway

/-- The method of the call. -/
def method : Call → Method
  | .routes request => request.method
  | .gateways request => request.method

/-- The object that the call is about; a listing is about none. -/
def key? : Call → Option ObjectRef
  | .routes request => request.key?
  | .gateways request => request.key?

end Call

end SharedGateway
