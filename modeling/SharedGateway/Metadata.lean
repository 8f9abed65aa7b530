/-
Object metadata: the part of an object that every kind shares. Only the fields
below are kept; an object's other metadata is neither read nor written. Empty
tables and lists are told apart from missing ones, and an optional field that
is `null` counts as missing.
-/
import SharedGateway.Json.Encode
import SharedGateway.Metadata.ManagedFields
import SharedGateway.Metadata.Owner
import SharedGateway.ObjectRef

namespace SharedGateway

open Json (Document)

/-- The metadata of an object. -/
structure Metadata where
  name : Option String := none
  ns : Option String := none
  generateName : Option String := none
  uid : Option String := none
  resourceVersion : Option String := none
  selfLink : Option String := none
  generation : Option Int64 := none
  annotations : Option (Table String String) := none
  labels : Option (Table String String) := none
  finalizers : Option (List String) := none
  owners : Option (List Owner) := none
  managed : Option (List ManagedFields) := none
  creationTimestamp : Option Timestamp := none
  deletionTimestamp : Option Timestamp := none
  deletionGracePeriodSeconds : Option Int64 := none
  deriving DecidableEq

namespace Metadata

/-- Reads metadata. -/
def read? (d : Document) : Option Metadata := do
  let members ← d.members?
  let name ← Document.latest? members "name" Document.text?
  let ns ← Document.latest? members "namespace" Document.text?
  let generateName ← Document.latest? members "generateName" Document.text?
  let uid ← Document.latest? members "uid" Document.text?
  let resourceVersion ← Document.latest? members "resourceVersion" Document.text?
  let selfLink ← Document.latest? members "selfLink" Document.text?
  let generation ← Document.latest? members "generation" Document.int64?
  let annotations ← Document.latest? members "annotations" Document.textTable?
  let labels ← Document.latest? members "labels" Document.textTable?
  let finalizers ← Document.latest? members "finalizers" (Document.list? Document.text?)
  let owners ← Document.latest? members "ownerReferences" (Document.list? Owner.read?)
  let managed ← Document.latest? members "managedFields" (Document.list? ManagedFields.read?)
  let creationTimestamp ← Document.latest? members "creationTimestamp" Timestamp.read?
  let deletionTimestamp ← Document.latest? members "deletionTimestamp" Timestamp.read?
  let deletionGracePeriodSeconds ←
    Document.latest? members "deletionGracePeriodSeconds" Document.int64?
  some {
    name, ns, generateName, uid, resourceVersion, selfLink, generation, annotations, labels,
    finalizers, owners, managed, creationTimestamp, deletionTimestamp,
    deletionGracePeriodSeconds }

/-- The written form. -/
def toJson (m : Metadata) : Json :=
  Json.object [
    ("annotations", m.annotations.map Json.ofTextTable),
    ("creationTimestamp", m.creationTimestamp.map Timestamp.toJson),
    ("deletionGracePeriodSeconds", m.deletionGracePeriodSeconds.map fun n => .int n.toInt),
    ("deletionTimestamp", m.deletionTimestamp.map Timestamp.toJson),
    ("finalizers", m.finalizers.map Json.strings),
    ("generateName", m.generateName.map .str),
    ("generation", m.generation.map fun n => .int n.toInt),
    ("labels", m.labels.map Json.ofTextTable),
    ("managedFields", m.managed.map fun entries => .arr (entries.map ManagedFields.toJson)),
    ("name", m.name.map .str),
    ("namespace", m.ns.map .str),
    ("ownerReferences", m.owners.map fun owners => .arr (owners.map Owner.toJson)),
    ("resourceVersion", m.resourceVersion.map .str),
    ("selfLink", m.selfLink.map .str),
    ("uid", m.uid.map .str)]

/-- The name of the object: its own, else the one it is generated from. -/
def displayName (m : Metadata) : String :=
  (m.name <|> m.generateName).getD ""

/-- The reference under which the object is stored. -/
def ref (m : Metadata) : ObjectRef :=
  ⟨m.ns.getD "", m.displayName⟩

/-- The finalizers that hold the object. -/
def finalizerList (m : Metadata) : List String :=
  m.finalizers.getD []

/-- Is the object marked as deleting? -/
def isDeleting (m : Metadata) : Bool :=
  m.deletionTimestamp.isSome

/-- Nothing holds a deleting object any more, so it is to be removed. -/
def isReleased (m : Metadata) : Bool :=
  m.isDeleting && m.finalizerList.isEmpty

end Metadata

end SharedGateway
