/-
Writing typed data as JSON values: tables of texts, and the collections that
are left out when they are empty.
-/
import SharedGateway.Json.Basic
import SharedGateway.Table

namespace SharedGateway.Json

/-- A table of texts as an object. -/
def ofTextTable (t : Table String String) : Json :=
  .obj (t.entries.map fun entry => (entry.1, .str entry.2))

/-- A list that is left out when it is empty. -/
def listOrAbsent : List Json → Option Json
  | [] => none
  | items => some (.arr items)

/-- A table of texts that is left out when it is empty. -/
def textTableOrAbsent (t : Table String String) : Option Json :=
  if t.isEmpty then none else some (ofTextTable t)

end SharedGateway.Json
