/-
How often each route has failed since it last succeeded.
-/
import SharedGateway.Table

namespace SharedGateway

/-- The number of failures in a row by route, written `namespace/name`. A route
without an entry has none. -/
structure Tracker where
  counts : Table String Nat := .empty
  deriving DecidableEq

namespace Tracker

/-- The number of failures of a route. -/
def count (t : Tracker) (route : String) : Nat :=
  (t.counts.find? route).getD 0

/-- One more failure of a route. -/
def increment (t : Tracker) (route : String) : Tracker :=
  ⟨t.counts.insert route (t.count route + 1)⟩

/-- A success of a route. -/
def reset (t : Tracker) (route : String) : Tracker :=
  ⟨t.counts.erase route⟩

theorem count_increment (t : Tracker) (route other : String) :
    (t.increment route).count other
      = if route = other then t.count route + 1 else t.count other := by
  unfold count increment
  rw [Table.find?_insert]
  split <;> rfl

theorem count_reset (t : Tracker) (route other : String) :
    (t.reset route).count other = if route = other then 0 else t.count other := by
  unfold count reset
  rw [Table.find?_erase]
  split <;> rfl

end Tracker

end SharedGateway
