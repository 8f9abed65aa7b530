/-
Timestamps in JSON: a text in their written form.
-/
import SharedGateway.Json.Decode
import SharedGateway.Timestamp.Reader

namespace SharedGateway.Timestamp

open Json (Document)

/-- Reads a timestamp. -/
def read? (d : Document) : Option Timestamp :=
  d.text?.bind ofText?

/-- The written form. -/
def toJson (t : Timestamp) : Json :=
  .str t.toText

end SharedGateway.Timestamp
