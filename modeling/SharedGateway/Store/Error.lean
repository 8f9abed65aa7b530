/-
What can go wrong when a store is asked for something. A conflict and an
existing object are the two outcomes that a fresh read can mend; the API's own
answers that mean something to the operator are told apart from the rest.
-/

namespace SharedGateway

/-- An error answer of the API server. -/
structure ApiStatus where
  status : String
  code : Nat
  reason : String
  message : String
  deriving DecidableEq, Repr

/-- Failures of the client itself, where the API server gave no answer that
could be used. -/
inductive ClientFailure where
  /-- The request cannot be put together. -/
  | buildRequest
  /-- The request got no response. -/
  | service
  /-- The response's body cannot be read. -/
  | unreadable
  /-- A line of a watched stream is too long. -/
  | lineTooLong
  deriving DecidableEq, Repr

/-- The errors of a store. `kind` and `key` name the object in question. -/
inductive StoreError where
  | notFound (kind key : String)
  | alreadyExists (kind key : String)
  | conflict (kind key : String)
  | invalidObject (reason : String)
  | serialization
  | api (status : ApiStatus)
  | client (failure : ClientFailure)
  deriving DecidableEq, Repr

namespace StoreError

/-- The message, for the errors that have one of their own. -/
def message? : StoreError → Option String
  | .notFound kind key => some (kind ++ " " ++ key ++ " not found")
  | .alreadyExists kind key => some (kind ++ " " ++ key ++ " already exists")
  | .conflict kind key => some ("Conflict writing " ++ kind ++ " " ++ key)
  | .invalidObject reason => some ("Invalid object: " ++ reason)
  | .serialization => none
  | .api _ => none
  | .client _ => none

/-- Is the object missing? -/
def isNotFound : StoreError → Bool
  | .notFound .. => true
  | _ => false

/-- Did somebody else write first, so that reading again may help? -/
def isConflict : StoreError → Bool
  | .conflict .. => true
  | .alreadyExists .. => true
  | _ => false

/-- An error answer as an error about the object: a missing object, an existing
one and a lost race are recognised by code and reason. -/
def ofStatus (status : ApiStatus) (kind key : String) : StoreError :=
  if status.code = 404 then .notFound kind key
  else if status.code = 409 then
    if status.reason = "AlreadyExists" then .alreadyExists kind key else .conflict kind key
  else .api status

end StoreError

end SharedGateway
