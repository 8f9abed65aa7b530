/-
Merge patches. The patch is an object in the shape of the target that names
only what changes: `null` removes a field, an object descends, anything else
replaces. A patch that is no object replaces the whole target.
-/
import SharedGateway.Json.Basic

namespace SharedGateway.Json

mutual

/-- The target after the patch. A target that is no object counts as an empty
one when an object patches it. -/
def mergePatch (target : Json) : Json → Json
  | .obj patch => .obj (mergeFields target.fields patch)
  | .null => .null
  | .bool b => .bool b
  | .int n => .int n
  | .real x => .real x
  | .str text => .str text
  | .arr items => .arr items
termination_by structural patch => patch

/-- The fields after each entry of the patch in turn. -/
def mergeFields (fields : Fields) : Fields → Fields
  | [] => fields
  | (name, change) :: rest =>
    let changed :=
      match change with
      | .null => eraseField name fields
      | change => setField name (mergePatch (orNull (field? name fields)) change) fields
    mergeFields changed rest
termination_by structural patch => patch

end

end SharedGateway.Json
