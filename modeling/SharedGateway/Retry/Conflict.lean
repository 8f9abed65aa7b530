/-
Updating an object until no other writer interferes. An attempt reads, changes
and writes; when the write loses a race the attempt is made again from the
read, up to a bound that is never below one.
-/
import SharedGateway.Store.Error

namespace SharedGateway

/-- How often and at what pace an attempt is repeated. -/
structure ConflictRetry where
  attempts : Nat
  /-- The pause between two attempts, in milliseconds. -/
  pause : Nat
  positive : 0 < attempts
  deriving DecidableEq

namespace ConflictRetry

/-- The policy of that many attempts, at least one. -/
def ofAttempts (attempts pause : Nat) : ConflictRetry :=
  ⟨max attempts 1, pause, by omega⟩

end ConflictRetry

/-- Why repeated attempts came to nothing. -/
inductive RetryError where
  /-- Every attempt met a conflict; `cause` is the last one. -/
  | exhausted (attempts : Nat) (cause : StoreError)
  /-- An attempt failed for another reason. -/
  | store (cause : StoreError)
  deriving DecidableEq, Repr

/-- The message, for the errors that have one. -/
def RetryError.message? : RetryError → Option String
  | .exhausted attempts cause =>
    cause.message?.map fun message =>
      "Gave up after " ++ toString attempts ++ " conflicting attempts: " ++ message
  | .store cause => cause.message?

section Loop

variable {m : Type → Type} [Monad m] {α : Type}

/-- Attempts until one meets no conflict, `left` more after this one, which is
number `attempt`. -/
def retryFrom (pause : m Unit) (act : m (Except StoreError α)) (attempt : Nat) :
    (left : Nat) → m (Except RetryError α)
  | 0 => do
    match ← act with
    | .ok value => return .ok value
    | .error cause =>
      return .error (if cause.isConflict then .exhausted attempt cause else .store cause)
  | left + 1 => do
    match ← act with
    | .ok value => return .ok value
    | .error cause =>
      if cause.isConflict then
        pause
        retryFrom pause act (attempt + 1) left
      else return .error (.store cause)

/-- Attempts as often as the policy allows; `pause` passes the time between two
attempts, and is left out where the policy has no pause. -/
def retryOnConflict (policy : ConflictRetry) (pause : Nat → m Unit)
    (act : m (Except StoreError α)) : m (Except RetryError α) :=
  let wait := if policy.pause = 0 then return () else pause policy.pause
  retryFrom wait act 1 (policy.attempts - 1)

end Loop

end SharedGateway
