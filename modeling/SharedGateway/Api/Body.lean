/-
Bodies of responses. A body that should hold data and cannot be read is a
failure of the client; one that should explain an error and cannot be read
becomes the explanation itself.

Readers differ in what they look at. The parts of an object that it does not
keep are passed over, even where they have no value; the members of a list
beside its items, and the whole body that answers a deletion, must have one.
-/
import SharedGateway.Api.Http
import SharedGateway.Json.Parser
import SharedGateway.Object
import SharedGateway.Store.Error
import SharedGateway.Text.Quoted

namespace SharedGateway.Api

open Json (Document)

-- =============================================================== errors

/-- Reads the status object of an error response. -/
def apiStatus? (d : Document) : Option ApiStatus := do
  let members ← d.record? ["status", "message", "reason", "code"]
  let status ← Document.required? members "status" Document.text?
  let message ← Document.defaulted? members "message" "" Document.text?
  let reason ← Document.defaulted? members "reason" "" Document.text?
  let code ← Document.required? members "code" (Document.natBelow? UInt16.size)
  some { status, code, reason, message }

/-- The error that an error response tells of. -/
def HttpResponse.error (r : HttpResponse) : ApiStatus :=
  match (Document.ofText? r.body).bind apiStatus? with
  | some status => status
  | none => {
      status := statusLine r.status
      code := r.status
      reason := "Failed to parse error data"
      message := Text.quoted r.body }

-- ============================================================== objects

/-- The object in a body. -/
def object? (σ : Type) [Spec σ] (body : String) : Option (Object σ) :=
  (Document.ofText? body).bind Object.read?

/-- Is this the metadata of a list? -/
def isListMetadata (d : Document) : Bool :=
  Option.isSome do
    let members ← d.members?
    let _ ← Document.latest? members "continue" Document.text?
    let _ ← Document.latest? members "remainingItemCount" Document.int64?
    let _ ← Document.latest? members "resourceVersion" Document.text?
    Document.latest? members "selfLink" Document.text?

/-- The items of a list that may be `null`. -/
def items? (σ : Type) [Spec σ] (d : Document) : Option (List (Object σ)) :=
  (d.nullable? (Document.list? Object.read?)).map fun items => items.getD []

/-- The known members of a list. -/
def listNames : List String := ["metadata", "items"]

/-- Has every member beside those of the names a value? -/
def othersHaveValues (names : List String) (members : Document.Members) : Bool :=
  members.all fun member => names.contains member.1 || member.2.value?.isSome

/-- Reads a list of objects, which is itself an object. -/
def list? (σ : Type) [Spec σ] (d : Document) : Option (List (Object σ)) := do
  let all ← d.members?
  let members ← d.record? listNames
  let metadataReads ← Document.defaulted? members "metadata" true (some ∘ isListMetadata)
  if metadataReads && othersHaveValues listNames all then
    Document.required? members "items" (items? σ)
  else none

/-- The objects of the list in a body. -/
def objects? (σ : Type) [Spec σ] (body : String) : Option (List (Object σ)) :=
  (Document.ofText? body).bind (list? σ)

-- ============================================================= deletions

/-- Is this a cause in the details of a status? -/
def isCause (d : Document) : Bool :=
  Option.isSome do
    let members ← d.record? ["reason", "message", "field"]
    let _ ← Document.defaulted? members "reason" "" Document.text?
    let _ ← Document.defaulted? members "message" "" Document.text?
    Document.defaulted? members "field" "" Document.text?

/-- Are these the details of a status? -/
def isDetails (d : Document) : Bool :=
  Option.isSome do
    let members ← d.record? ["name", "group", "kind", "uid", "causes", "retryAfterSeconds"]
    let _ ← Document.defaulted? members "name" "" Document.text?
    let _ ← Document.defaulted? members "group" "" Document.text?
    let _ ← Document.defaulted? members "kind" "" Document.text?
    let _ ← Document.defaulted? members "uid" "" Document.text?
    let _ ← Document.defaulted? members "causes" [] (Document.list? (Option.guard isCause))
    Document.defaulted? members "retryAfterSeconds" 0 (Document.natBelow? UInt32.size)

/-- Is this a status object, all of whose members may be missing? -/
def isStatus (d : Document) : Bool :=
  Option.isSome do
    let members ← d.record? ["status", "code", "message", "reason", "details"]
    let outcome? := Document.choice? [("Success", true), ("Failure", false)]
    let _ ← Document.optional? members "status" outcome?
    let _ ← Document.defaulted? members "code" 0 (Document.natBelow? UInt16.size)
    let _ ← Document.defaulted? members "message" "" Document.text?
    let _ ← Document.defaulted? members "reason" "" Document.text?
    Document.optional? members "details" (Option.guard isDetails)

/-- Does the body answer a deletion, with a status or with the object that is
now deleting? -/
def isDeletion (σ : Type) [Spec σ] (body : String) : Bool :=
  match Document.ofText? body with
  | none => false
  | some d =>
    match d.value? with
    | none => false
    | some value =>
      if value.get? "kind" = some (.str "Status") then isStatus d
      else (Object.read? (σ := σ) d).isSome

-- =============================================================== version

/-- The members of the server's version. -/
def versionNames : List String :=
  ["buildDate", "compiler", "emulationMajor", "emulationMinor", "gitCommit", "gitTreeState",
   "gitVersion", "goVersion", "major", "minCompatibilityMajor", "minCompatibilityMinor", "minor",
   "platform"]

/-- Does the body tell the server's version? -/
def isVersion (body : String) : Bool :=
  match (Document.ofText? body).bind Document.members? with
  | none => false
  | some members =>
    versionNames.all fun name => (Document.latest? members name Document.text?).isSome

end SharedGateway.Api
