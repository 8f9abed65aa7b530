/-
Server-side apply by an applier that owns none of the list items it finds:
what the applied value names is set, what it leaves out is kept. Objects merge
field by field and a `null` is a value like any other. Lists are maps keyed by
the `name` of their items: an item replaces the first one of its name, or joins
the end of the list; an item without a name joins unless it is there already.
-/
import SharedGateway.Json.Comparison

namespace SharedGateway.Json

-- ========================================================= lists by name

/-- The name of an item as it compares; only an object can have one. -/
def entryName? (item : Json) : Option Json :=
  (item.get? "name").map compared

/-- Do the two items stand for the same entry of the list? The applied item
decides how to tell: by its name if it has one, else by the whole value. -/
def sameEntry (applied item : Json) : Bool :=
  match applied.entryName? with
  | some name => item.entryName? = some name
  | none => item.Alike applied

/-- The list with the applied item in place of the first one that stands for
the same entry, or at the end. -/
def upsert (applied : Json) : List Json → List Json
  | [] => [applied]
  | item :: rest =>
    if sameEntry applied item then applied :: rest else item :: upsert applied rest

/-- The list after each applied item in turn. -/
def upsertAll (items : List Json) (applied : List Json) : List Json :=
  applied.foldl (fun items item => upsert item items) items

-- ============================================================== applying

mutual

/-- The target after the applied value. -/
def applied (target : Json) : Json → Json
  | .obj fields =>
    match target with
    | .obj current => .obj (appliedFields current fields)
    | _ => .obj fields
  | .arr items =>
    match target with
    | .arr current => .arr (upsertAll current items)
    | _ => .arr items
  | .null => .null
  | .bool b => .bool b
  | .int n => .int n
  | .real x => .real x
  | .str text => .str text
termination_by structural value => value

/-- The fields after each applied field in turn; a field that the target lacks
is taken over whole. -/
def appliedFields (current : Fields) : Fields → Fields
  | [] => current
  | (name, value) :: rest =>
    let merged :=
      match field? name current with
      | some old => applied old value
      | none => value
    appliedFields (setField name merged current) rest
termination_by structural value => value

end

end SharedGateway.Json
