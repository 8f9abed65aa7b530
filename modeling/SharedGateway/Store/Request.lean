/-
What can be asked of a store, and what each request is answered with.
-/
import SharedGateway.Object
import SharedGateway.Store.Error

namespace SharedGateway

/-- A request to a store of objects with specification `σ`. -/
inductive Request (σ : Type) where
  | get (key : ObjectRef)
  /-- All objects of all namespaces. -/
  | list
  /-- A new object, in its own namespace. -/
  | create (object : Object σ)
  /-- A merge patch; one that names a `metadata.resourceVersion` holds for that
  version only. -/
  | merge (key : ObjectRef) (patch : Json)
  /-- Server-side apply in the name of a field manager, by force. -/
  | apply (key : ObjectRef) (value : Json) (manager : String)
  /-- A deletion, which may be held to a version. -/
  | delete (key : ObjectRef) (version : Option String)

/-- The methods of a store: the forms that a request can have. -/
inductive Method where
  | get
  | list
  | create
  | merge
  | apply
  | delete
  deriving DecidableEq, Repr

namespace Request

variable {σ : Type}

/-- What a request that succeeds is answered with. -/
abbrev Answer : Request σ → Type
  | .get _ => Option (Object σ)
  | .list => List (Object σ)
  | .create _ => Object σ
  | .merge _ _ => Object σ
  | .apply _ _ _ => Object σ
  | .delete _ _ => Unit

/-- The method of a request. -/
def method : Request σ → Method
  | .get _ => .get
  | .list => .list
  | .create _ => .create
  | .merge _ _ => .merge
  | .apply _ _ _ => .apply
  | .delete _ _ => .delete

/-- The object that a request is about; a listing is about none. -/
def key? : Request σ → Option ObjectRef
  | .get key => some key
  | .list => none
  | .create object => some object.ref
  | .merge key _ => some key
  | .apply key _ _ => some key
  | .delete key _ => some key

/-- Can the request change the store? -/
def isWrite (r : Request σ) : Bool :=
  r.method ≠ .get && r.method ≠ .list

end Request

end SharedGateway
