/-
References from an object to its owners. They are carried along with the
object's metadata and decide nothing here.
-/
import SharedGateway.Json.Decode

namespace SharedGateway

open Json (Document)

/-- A reference to an owner. Its four texts are empty where they are missing. -/
structure Owner where
  apiVersion : String := ""
  kind : String := ""
  name : String := ""
  uid : String := ""
  controller : Option Bool := none
  blockOwnerDeletion : Option Bool := none
  deriving DecidableEq, Repr

namespace Owner

/-- Reads a reference. -/
def read? (d : Document) : Option Owner := do
  let members ← d.members?
  let apiVersion ← Document.latestOr? members "apiVersion" "" Document.text?
  let kind ← Document.latestOr? members "kind" "" Document.text?
  let name ← Document.latestOr? members "name" "" Document.text?
  let uid ← Document.latestOr? members "uid" "" Document.text?
  let controller ← Document.latest? members "controller" Document.bool?
  let blockOwnerDeletion ← Document.latest? members "blockOwnerDeletion" Document.bool?
  some { apiVersion, kind, name, uid, controller, blockOwnerDeletion }

/-- The written form. -/
def toJson (o : Owner) : Json :=
  Json.object [
    ("apiVersion", some (.str o.apiVersion)),
    ("blockOwnerDeletion", o.blockOwnerDeletion.map .bool),
    ("controller", o.controller.map .bool),
    ("kind", some (.str o.kind)),
    ("name", some (.str o.name)),
    ("uid", some (.str o.uid))]

end Owner

end SharedGateway
