/-
A store of objects with the rules of the API server: every write stamps a new
version, a patch can be held to the version it was made for, a deletion waits
until no finalizer holds the object, and applying never removes what it does
not name. Three marks let another writer interfere with the next write.
-/
import SharedGateway.Json.Apply
import SharedGateway.Json.MergePatch
import SharedGateway.Store.Request

namespace SharedGateway

/-- The objects of one kind, and what awaits the next writes. -/
structure Store (σ : Type) where
  objects : Table ObjectRef (Object σ) := .empty
  /-- The next version to be stamped. -/
  nextVersion : Nat := 1
  /-- That many merge patches will meet a conflict. -/
  queuedConflicts : Nat := 0
  /-- The next creation will find the object there already. -/
  failNextCreate : Bool := false
  /-- The object will be gone when the next merge patch lands. -/
  vanishBeforeMerge : Bool := false
  deriving DecidableEq

namespace Store

variable {σ : Type}

/-- When an object that finalizers hold is deleted, it is marked with this
time. -/
def deletionTime : Timestamp where
  date := ⟨2024, 1, 1, by decide⟩
  hour := 0
  minute := 0
  second := 0
  inDay := by decide
  isYear := by decide

-- ============================================================ stamping

/-- The version that the next write stamps. -/
def versionText (s : Store σ) : String :=
  toString s.nextVersion

/-- The object with the next version. -/
def stamped (s : Store σ) (o : Object σ) : Object σ :=
  o.withVersion s.versionText

/-- The store with the stamped object under the key, and the version used up. -/
def keep (s : Store σ) (key : ObjectRef) (o : Object σ) : Store σ :=
  { s with
    objects := s.objects.insert key (s.stamped o)
    nextVersion := s.nextVersion + 1 }

/-- The store without the object, the version used up all the same. -/
def release (s : Store σ) (key : ObjectRef) : Store σ :=
  { s with
    objects := s.objects.erase key
    nextVersion := s.nextVersion + 1 }

/-- The store after the object under the key was replaced: a deleting object
that nothing holds any more is removed. -/
def replace (s : Store σ) (key : ObjectRef) (o : Object σ) : Store σ :=
  if o.metadata.isReleased then s.release key else s.keep key o

-- ============================================================= reading

/-- The object under the key. -/
def get (s : Store σ) (key : ObjectRef) : Option (Object σ) :=
  s.objects.find? key

/-- All objects in order. -/
def list (s : Store σ) : List (Object σ) :=
  s.objects.values

/-- The kept object is found with its new version, and no other changes. -/
theorem get_keep (s : Store σ) (key other : ObjectRef) (o : Object σ) :
    (s.keep key o).get other = if key = other then some (s.stamped o) else s.get other :=
  Table.find?_insert s.objects key other (s.stamped o)

/-- The released object is gone, and no other changes. -/
theorem get_release (s : Store σ) (key other : ObjectRef) :
    (s.release key).get other = if key = other then none else s.get other :=
  Table.find?_erase s.objects key other

-- ============================================================ requests

section Requests

variable [Spec σ]

/-- An error about the object under the key. -/
def about (σ : Type) [Spec σ] (error : String → String → StoreError) (key : ObjectRef) :
    StoreError :=
  error (Spec.kind σ).toText key.toText

/-- Puts an object under its own reference, over an older one. -/
def put (s : Store σ) (o : Object σ) : Object σ × Store σ :=
  (s.stamped o, s.keep o.ref o)

/-- Creates an object under its own reference. -/
def create (s : Store σ) (o : Object σ) : Except StoreError (Object σ) × Store σ :=
  let cleared := { s with failNextCreate := false }
  if s.failNextCreate || s.objects.contains o.ref then
    (.error (about σ .alreadyExists o.ref), cleared)
  else (.ok (s.stamped o), cleared.keep o.ref o)

/-- Replaces the object under the key by a written form; one that cannot be
read back is not kept. -/
def replaceJson (s : Store σ) (key : ObjectRef) (value : Json) :
    Except StoreError (Object σ) × Store σ :=
  match Object.ofJson? value with
  | none => (.error .serialization, s)
  | some o => (.ok (s.stamped o), s.replace key o)

/-- The version that a patch is made for, if it states one. -/
def versionOfPatch? (patch : Json) : Option String :=
  ((patch.get? "metadata").bind fun metadata => metadata.get? "resourceVersion").bind Json.text?

/-- Does the object have the version, where one is asked for? -/
def hasVersion (o : Object σ) (wanted : Option String) : Bool :=
  match wanted with
  | none => true
  | some version => o.resourceVersion = some version

/-- Merges a patch into the object under the key. -/
def merge (s : Store σ) (key : ObjectRef) (patch : Json) :
    Except StoreError (Object σ) × Store σ :=
  if s.queuedConflicts ≠ 0 then
    (.error (about σ .conflict key), { s with queuedConflicts := s.queuedConflicts - 1 })
  else
    let s :=
      if s.vanishBeforeMerge then
        { s with objects := s.objects.erase key, vanishBeforeMerge := false }
      else s
    match s.get key with
    | none => (.error (about σ .notFound key), s)
    | some current =>
      if hasVersion current (versionOfPatch? patch) then
        s.replaceJson key (current.toJson.mergePatch patch)
      else (.error (about σ .conflict key), s)

/-- Applies a value to the object under the key, which is made from the value
if it is missing. -/
def apply (s : Store σ) (key : ObjectRef) (value : Json) :
    Except StoreError (Object σ) × Store σ :=
  match s.get key with
  | some current => s.replaceJson key (current.toJson.applied value)
  | none =>
    match Object.ofJson? value with
    | none => (.error .serialization, s)
    | some o => (.ok (s.stamped o), s.keep key o)

/-- Deletes the object under the key: at once if nothing holds it, else by
marking it as deleting, unless it is marked already. -/
def delete (s : Store σ) (key : ObjectRef) (version : Option String) :
    Except StoreError Unit × Store σ :=
  match s.get key with
  | none => (.error (about σ .notFound key), s)
  | some current =>
    if !hasVersion current version then (.error (about σ .conflict key), s)
    else if current.finalizers.isEmpty then
      (.ok (), { s with objects := s.objects.erase key })
    else if current.isDeleting then (.ok (), s)
    else
      let marked :=
        { current with
          metadata := { current.metadata with deletionTimestamp := some deletionTime } }
      (.ok (), s.keep key marked)

/-- What a request is answered with, and the store after it. -/
def perform (s : Store σ) : (r : Request σ) → Except StoreError r.Answer × Store σ
  | .get key => (.ok (s.get key), s)
  | .list => (.ok s.list, s)
  | .create object => s.create object
  | .merge key patch => s.merge key patch
  | .apply key value _ => s.apply key value
  | .delete key version => s.delete key version

end Requests

end Store

end SharedGateway
