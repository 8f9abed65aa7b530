/-
Objects of the API: metadata and a specification. The two kinds differ in
their specification alone, so all that concerns identity, versions, finalizers
and reading and writing is said once, for any specification.
-/
import SharedGateway.Metadata

namespace SharedGateway

open Json (Document)

/-- The kinds of object that are read and written. -/
inductive Kind where
  | httpRoute
  | gateway
  deriving DecidableEq, Repr

namespace Kind

/-- The kind as the API names it. -/
def toText : Kind → String
  | .httpRoute => "HTTPRoute"
  | .gateway => "Gateway"

/-- The name of the kind's collection in request paths. -/
def plural : Kind → String
  | .httpRoute => "httproutes"
  | .gateway => "gateways"

end Kind

/-- The API group and version of both kinds. -/
def apiVersion : String := "gateway.networking.k8s.io/v1"

/-- A specification: the part of an object that belongs to its kind. -/
class Spec (σ : Type) where
  kind : Kind
  read? : Document → Option σ
  toJson : σ → Json

/-- An object with a specification of type `σ`. -/
structure Object (σ : Type) where
  metadata : Metadata
  spec : σ
  deriving DecidableEq

namespace Object

variable {σ : Type}

-- ============================================================= codec

/-- The members of the record in their order. -/
def names : List String :=
  ["metadata", "spec"]

/-- Reads an object. The kind and the version that it states are not looked
at: the reader knows what it asked for. -/
def read? [Spec σ] (d : Document) : Option (Object σ) := do
  let members ← d.record? names
  let metadata ← Document.required? members "metadata" Metadata.read?
  let spec ← Document.required? members "spec" Spec.read?
  some ⟨metadata, spec⟩

/-- Reads an object from a value. -/
def ofJson? [Spec σ] (value : Json) : Option (Object σ) :=
  read? value.document

/-- The written form. -/
def toJson [Spec σ] (o : Object σ) : Json :=
  Json.object [
    ("apiVersion", some (.str apiVersion)),
    ("kind", some (.str (Spec.kind σ).toText)),
    ("metadata", some o.metadata.toJson),
    ("spec", some (Spec.toJson o.spec))]

-- =============================================================== views

/-- The reference under which the object is stored. -/
def ref (o : Object σ) : ObjectRef := o.metadata.ref

/-- The version that the store gave the object. -/
def resourceVersion (o : Object σ) : Option String := o.metadata.resourceVersion

/-- The finalizers that hold the object. -/
def finalizers (o : Object σ) : List String := o.metadata.finalizerList

/-- Is the object marked as deleting? -/
def isDeleting (o : Object σ) : Bool := o.metadata.isDeleting

/-- The text of an annotation of the object. -/
def annotated? (o : Object σ) (key : String) : Option String :=
  o.metadata.annotations.bind fun table => table.find? key

theorem annotated?_eq (o : Object σ) (key : String) :
    o.annotated? key = (o.metadata.annotations.getD .empty).find? key := by
  rw [annotated?]
  cases o.metadata.annotations <;> rfl

/-- The object with another version. -/
def withVersion (o : Object σ) (version : String) : Object σ :=
  { o with metadata := { o.metadata with resourceVersion := some version } }

end Object

end SharedGateway
