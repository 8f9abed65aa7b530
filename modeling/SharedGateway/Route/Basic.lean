/-
HTTP routes: the gateways that a route attaches to and the hostnames that it
serves. Rules, filters and backends of a route are not read.
-/
import SharedGateway.Object

namespace SharedGateway

open Json (Document)

/-- A reference from a route to a gateway. -/
structure ParentRef where
  name : String
  /-- The route's own namespace where it is missing. -/
  ns : Option String := none
  group : Option String := none
  kind : Option String := none
  sectionName : Option String := none
  deriving DecidableEq, Repr

namespace ParentRef

/-- The members of the record in their order. -/
def names : List String :=
  ["group", "kind", "namespace", "name", "sectionName"]

/-- Reads a parent reference. -/
def read? (d : Document) : Option ParentRef := do
  let members ← d.record? names
  let group ← Document.optional? members "group" Document.text?
  let kind ← Document.optional? members "kind" Document.text?
  let ns ← Document.optional? members "namespace" Document.text?
  let name ← Document.required? members "name" Document.text?
  let sectionName ← Document.optional? members "sectionName" Document.text?
  some { name, ns, group, kind, sectionName }

/-- The written form. -/
def toJson (p : ParentRef) : Json :=
  Json.object [
    ("group", p.group.map .str),
    ("kind", p.kind.map .str),
    ("name", some (.str p.name)),
    ("namespace", p.ns.map .str),
    ("sectionName", p.sectionName.map .str)]

end ParentRef

/-- The specification of a route. -/
structure RouteSpec where
  /-- Only the first one counts. -/
  parents : List ParentRef := []
  hostnames : List String := []
  deriving DecidableEq, Repr

namespace RouteSpec

/-- The members of the record in their order. -/
def names : List String :=
  ["parentRefs", "hostnames"]

/-- Reads a route's specification. -/
def read? (d : Document) : Option RouteSpec := do
  let members ← d.record? names
  let parents ← Document.defaulted? members "parentRefs" [] (Document.list? ParentRef.read?)
  let hostnames ← Document.defaulted? members "hostnames" [] (Document.list? Document.text?)
  some { parents, hostnames }

/-- The written form; empty lists are left out. -/
def toJson (s : RouteSpec) : Json :=
  Json.object [
    ("hostnames", Json.listOrAbsent (s.hostnames.map .str)),
    ("parentRefs", Json.listOrAbsent (s.parents.map ParentRef.toJson))]

instance : Spec RouteSpec where
  kind := .httpRoute
  read? := read?
  toJson := toJson

end RouteSpec

/-- An HTTP route. -/
abbrev Route := Object RouteSpec

/-- The gateway that a route attaches to: the one of its first parent
reference, in the route's own namespace unless the reference names another. -/
def Object.parent? (route : Route) : Option ObjectRef :=
  route.spec.parents.head?.map fun parent =>
    ⟨(parent.ns <|> route.metadata.ns).getD "", parent.name⟩

end SharedGateway
