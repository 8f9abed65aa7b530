/-
The store behind the API server. Every request is one HTTP request or none at
all, and its answer is read from one response. Errors about an object are told
in the terms of the store; those of a listing are passed on as they are.
-/
import SharedGateway.Api.Body
import SharedGateway.Api.Target
import SharedGateway.Store.Request

namespace SharedGateway.Api

-- ============================================================= requests

/-- The media type of plain JSON. -/
def jsonType : String := "application/json"

/-- The longest name of a field manager, in bytes. -/
def maxManagerLength : Nat := 128

/-- The path of one object; an empty name has none. -/
def objectPath? (kind : Kind) (key : ObjectRef) : Option String :=
  if key.name = "" then none else some (collection kind (some key.ns) ++ "/" ++ key.name)

/-- The body of a deletion. -/
def deletionBody (version : Option String) : Json :=
  Json.object [
    ("preconditions", version.map fun v => Json.object [("resourceVersion", some (.str v))])]

/-- The HTTP request that a request to the store becomes, if it can be put
together. -/
def httpRequest? {σ : Type} [Spec σ] (r : Request σ) : Option HttpRequest := do
  let kind := Spec.kind σ
  match r with
  | .get key =>
    let target ← target? (← objectPath? kind key)
    some { method := .get, target }
  | .list =>
    let target ← target? (collection kind none ++ "?")
    some { method := .get, target }
  | .create object =>
    let target ← target? (collection kind object.metadata.ns ++ "?")
    some { method := .post, target, contentType := some jsonType, body := some object.toJson }
  | .merge key patch =>
    let target ← target? ((← objectPath? kind key) ++ "?")
    some {
      method := .patch, target, accept := some jsonType, body := some patch
      contentType := some "application/merge-patch+json" }
  | .apply key value manager =>
    let path ← objectPath? kind key
    if manager.utf8ByteSize > maxManagerLength then none
    let target ← target? (path ++ "?" ++ applyQuery manager)
    some {
      method := .patch, target, accept := some jsonType, body := some value
      contentType := some "application/apply-patch+yaml" }
  | .delete key version =>
    let target ← target? ((← objectPath? kind key) ++ "?")
    some {
      method := .delete, target, contentType := some jsonType
      body := some (deletionBody version) }

-- ============================================================== answers

/-- Data that a body should hold. -/
def readable {α : Type} (data : Option α) : Except StoreError α :=
  match data with
  | some a => .ok a
  | none => .error (.client .unreadable)

/-- What a successful response answers a request with. -/
def answer {σ : Type} [Spec σ] (body : String) : (r : Request σ) → Except StoreError r.Answer
  | .get _ => readable ((object? σ body).map some)
  | .list => readable (objects? σ body)
  | .create _ => readable (object? σ body)
  | .merge _ _ => readable (object? σ body)
  | .apply _ _ _ => readable (object? σ body)
  | .delete _ _ => readable (if isDeletion σ body then some () else none)

/-- What an error response answers a request with. A response whose reason says
that the object is missing is an answer to a reading; of a listing no object is
at fault. -/
def errorAnswer {σ : Type} [Spec σ] (status : ApiStatus) :
    (r : Request σ) → Except StoreError r.Answer
  | .get key =>
    if status.reason = "NotFound" then .ok none
    else .error (.ofStatus status (Spec.kind σ).toText key.toText)
  | .list => .error (.api status)
  | .create object => .error (.ofStatus status (Spec.kind σ).toText object.ref.toText)
  | .merge key _ => .error (.ofStatus status (Spec.kind σ).toText key.toText)
  | .apply key _ _ => .error (.ofStatus status (Spec.kind σ).toText key.toText)
  | .delete key _ => .error (.ofStatus status (Spec.kind σ).toText key.toText)

-- ============================================================= dialogue

/-- What a request to the API server comes to. -/
structure Dialogue (α : Type) where
  result : Except StoreError α
  /-- The HTTP request, if one was sent. -/
  sent : Option HttpRequest
  /-- The responses that are left for later requests. -/
  responses : List HttpResponse

/-- Sends an HTTP request; the next response answers it, if there is one. -/
def Dialogue.send {α : Type} (request : HttpRequest) (responses : List HttpResponse)
    (read : HttpResponse → Except StoreError α) : Dialogue α :=
  match responses with
  | [] => ⟨.error (.client .service), some request, []⟩
  | response :: rest => ⟨read response, some request, rest⟩

/-- Why an object cannot be created at all. -/
def missingNamespace : StoreError :=
  .invalidObject "missing metadata.namespace"

/-- Does the request ask for an object without a namespace to be created? -/
def lacksNamespace {σ : Type} : Request σ → Bool
  | .create object => object.metadata.ns.isNone
  | _ => false

/-- Asks the store behind the API server. -/
def perform {σ : Type} [Spec σ] (r : Request σ) (responses : List HttpResponse) :
    Dialogue r.Answer :=
  if lacksNamespace r then ⟨.error missingNamespace, none, responses⟩
  else
    match httpRequest? r with
    | none => ⟨.error (.client .buildRequest), none, responses⟩
    | some request =>
      .send request responses fun response =>
        if response.isError then errorAnswer response.error r else answer response.body r

/-- Asks the API server for its version, to see that it answers. -/
def checkReadiness (responses : List HttpResponse) : Dialogue Bool :=
  .send { method := .get, target := "/version" } responses fun response =>
    if response.isError then .error (.api response.error)
    else readable (if isVersion response.body then some true else none)

end SharedGateway.Api
