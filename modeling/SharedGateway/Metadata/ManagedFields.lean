/-
Who manages which fields of an object. The entries are carried along with the
object's metadata; the set of fields is any JSON value but `null`, which stands
for a missing one.
-/
import SharedGateway.Timestamp.Json

namespace SharedGateway

open Json (Document)

/-- A set of fields, as some manager has written it. In its objects the names
ascend, as they do in every value that was read. -/
structure FieldSet where
  value : Json
  ordered : value.Ordered
  notNull : value ≠ .null
  deriving DecidableEq

/-- Reads a set of fields. -/
def FieldSet.read? (d : Document) : Option FieldSet :=
  match read : d.value? with
  | none => none
  | some value =>
    if isNull : value = .null then none
    else some ⟨value, Document.ordered_of_value? read, isNull⟩

/-- The fields that one manager manages. -/
structure ManagedFields where
  apiVersion : Option String := none
  manager : Option String := none
  operation : Option String := none
  subresource : Option String := none
  time : Option Timestamp := none
  fieldsType : Option String := none
  fieldsV1 : Option FieldSet := none
  deriving DecidableEq

namespace ManagedFields

/-- Reads an entry. -/
def read? (d : Document) : Option ManagedFields := do
  let members ← d.members?
  let apiVersion ← Document.latest? members "apiVersion" Document.text?
  let manager ← Document.latest? members "manager" Document.text?
  let operation ← Document.latest? members "operation" Document.text?
  let subresource ← Document.latest? members "subresource" Document.text?
  let time ← Document.latest? members "time" Timestamp.read?
  let fieldsType ← Document.latest? members "fieldsType" Document.text?
  let fieldsV1 ← Document.latest? members "fieldsV1" FieldSet.read?
  some { apiVersion, manager, operation, subresource, time, fieldsType, fieldsV1 }

/-- The written form. -/
def toJson (m : ManagedFields) : Json :=
  Json.object [
    ("apiVersion", m.apiVersion.map .str),
    ("fieldsType", m.fieldsType.map .str),
    ("fieldsV1", m.fieldsV1.map FieldSet.value),
    ("manager", m.manager.map .str),
    ("operation", m.operation.map .str),
    ("subresource", m.subresource.map .str),
    ("time", m.time.map Timestamp.toJson)]

end ManagedFields

end SharedGateway
