/-
When two values count as equal. The two zeros of the doubles are one number,
though each is written in its own way. So values are compared in a form in which
no zero has a sign; but for that, equal values are the same value.
-/
import SharedGateway.Json.Basic

namespace SharedGateway

/-- The number as it compares: zero has no sign. -/
def Double.compared (x : Double) : Double :=
  if x.magnitude.digits = 0 then ⟨false, .zero⟩ else x

namespace Json

mutual

/-- The value as it compares, with no sign at any zero. -/
def compared : Json → Json
  | .null => .null
  | .bool b => .bool b
  | .int n => .int n
  | .real x => .real x.compared
  | .str text => .str text
  | .arr items => .arr (comparedItems items)
  | .obj fields => .obj (comparedFields fields)
termination_by structural v => v

/-- Each item as it compares. -/
def comparedItems : List Json → List Json
  | [] => []
  | v :: rest => compared v :: comparedItems rest
termination_by structural items => items

/-- The fields with their values as they compare. -/
def comparedFields : Fields → Fields
  | [] => []
  | (name, v) :: rest => (name, compared v) :: comparedFields rest
termination_by structural fields => fields

end

/-- Do the two values count as equal? -/
def Alike (a b : Json) : Prop :=
  a.compared = b.compared

instance (a b : Json) : Decidable (a.Alike b) :=
  inferInstanceAs (Decidable (a.compared = b.compared))

end Json

end SharedGateway
