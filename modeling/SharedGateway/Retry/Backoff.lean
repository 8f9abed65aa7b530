/-
When a route is delivered again. A success in sync is looked at again after a
while; a failure that may pass is tried again after a growing delay, which makes nine
timed retries in a row, as the tenth failure already waits for a change; any other
failure waits until the route changes.
-/

namespace SharedGateway

/-- When a route is next delivered. -/
inductive Action where
  /-- Not before it changes. -/
  | awaitChange
  /-- After that many seconds. -/
  | requeue (seconds : Nat)
  deriving DecidableEq, Repr

/-- Whether a failure may pass on its own. -/
inductive FailureKind where
  /-- It may, like a write conflict or an API that does not answer. -/
  | transient
  /-- It will not, like a broken policy or a malformed object. -/
  | permanent
  deriving DecidableEq, Repr

namespace Backoff

/-- From this many failed attempts in a row on, nothing is tried again. -/
def maxRetries : Nat := 10

/-- The delay after the first failure, in seconds. -/
def baseDelay : Nat := 5

/-- The longest delay, in seconds. -/
def maxDelay : Nat := 3600

/-- The delay after that many failed attempts: it doubles with each, up to the
longest. -/
def delay (attempt : Nat) : Nat :=
  min (baseDelay * Nat.pow 2 (min (attempt - 1) 31)) maxDelay

/-- What to do after a failure, the `attempt`-th in a row. -/
def after (attempt : Nat) : FailureKind → Action
  | .transient => if maxRetries ≤ attempt then .awaitChange else .requeue (delay attempt)
  | .permanent => .awaitChange

end Backoff

end SharedGateway
