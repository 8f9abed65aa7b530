/-
Objects are read back from their written form (`Object.ofJson?_toJson`).

The metadata has each of its fields under the field's name, and each is a record, a
text, a number, or a list or table of these, all of which are read back
(`Metadata.readsBack`). Its reader takes the last of several members with one name,
where the reader of an object refuses them; on a written object the two come to the
same (`IsObject.latest?_members`).

A specification is read back whatever its kind. `LawfulSpec` is what a kind of object
must promise for this, and routes and gateways keep the promise; so whatever is shown
below of objects holds of both, and the store, which knows objects only by their
written form, is reasoned about for both at once.
-/
import SharedGateway.Object
import SharedGateway.Proofs.Codec.Records

namespace SharedGateway

open Json (ReadsBack isObject_object readsBack_text)

-- ============================================================= metadata

/-- Metadata is written as an object. -/
theorem Metadata.isObject_toJson (m : Metadata) : m.toJson.IsObject :=
  isObject_object _

/-- Metadata is read back, field by field: each is an optional field of the written
form. -/
theorem Metadata.readsBack : ReadsBack Metadata.read? Metadata.toJson where
  read_write m := by
    have isObject := m.isObject_toJson
    have texts : m.toJson.get? "name" = m.name.map .str
        ∧ m.toJson.get? "namespace" = m.ns.map .str
        ∧ m.toJson.get? "generateName" = m.generateName.map .str
        ∧ m.toJson.get? "uid" = m.uid.map .str
        ∧ m.toJson.get? "resourceVersion" = m.resourceVersion.map .str
        ∧ m.toJson.get? "selfLink" = m.selfLink.map .str := by
      simp [Metadata.toJson]
    have tables : m.toJson.get? "annotations" = m.annotations.map Json.ofTextTable
        ∧ m.toJson.get? "labels" = m.labels.map Json.ofTextTable
        ∧ m.toJson.get? "finalizers" = m.finalizers.map Json.strings
        ∧ m.toJson.get? "ownerReferences"
          = m.owners.map (fun owners => .arr (owners.map Owner.toJson))
        ∧ m.toJson.get? "managedFields"
          = m.managed.map (fun entries => .arr (entries.map ManagedFields.toJson)) := by
      simp [Metadata.toJson]
    have numbers : m.toJson.get? "generation" = m.generation.map (fun n => .int n.toInt)
        ∧ m.toJson.get? "creationTimestamp" = m.creationTimestamp.map Timestamp.toJson
        ∧ m.toJson.get? "deletionTimestamp" = m.deletionTimestamp.map Timestamp.toJson
        ∧ m.toJson.get? "deletionGracePeriodSeconds"
          = m.deletionGracePeriodSeconds.map (fun n => .int n.toInt) := by
      simp [Metadata.toJson]
    obtain ⟨name, ns, generateName, uid, resourceVersion, selfLink⟩ := texts
    obtain ⟨annotations, labels, finalizers, owners, managed⟩ := tables
    obtain ⟨generation, creation, deletion, grace⟩ := numbers
    unfold Metadata.read?
    refine Option.bind_eq_some_iff.2 ⟨_, isObject.members?_document, ?_⟩
    refine Option.bind_eq_some_iff.2 ⟨_, readsBack_text.latest? isObject name, ?_⟩
    refine Option.bind_eq_some_iff.2 ⟨_, readsBack_text.latest? isObject ns, ?_⟩
    refine Option.bind_eq_some_iff.2 ⟨_, readsBack_text.latest? isObject generateName, ?_⟩
    refine Option.bind_eq_some_iff.2 ⟨_, readsBack_text.latest? isObject uid, ?_⟩
    refine Option.bind_eq_some_iff.2 ⟨_, readsBack_text.latest? isObject resourceVersion, ?_⟩
    refine Option.bind_eq_some_iff.2 ⟨_, readsBack_text.latest? isObject selfLink, ?_⟩
    refine Option.bind_eq_some_iff.2 ⟨_, Json.readsBack_int64.latest? isObject generation, ?_⟩
    refine Option.bind_eq_some_iff.2 ⟨_, Json.readsBack_textTable.latest? isObject annotations, ?_⟩
    refine Option.bind_eq_some_iff.2 ⟨_, Json.readsBack_textTable.latest? isObject labels, ?_⟩
    refine Option.bind_eq_some_iff.2 ⟨_, Json.readsBack_texts.latest? isObject finalizers, ?_⟩
    refine Option.bind_eq_some_iff.2 ⟨_, Owner.readsBack.list.latest? isObject owners, ?_⟩
    refine Option.bind_eq_some_iff.2 ⟨_, ManagedFields.readsBack.list.latest? isObject managed, ?_⟩
    refine Option.bind_eq_some_iff.2 ⟨_, Timestamp.readsBack.latest? isObject creation, ?_⟩
    refine Option.bind_eq_some_iff.2 ⟨_, Timestamp.readsBack.latest? isObject deletion, ?_⟩
    refine Option.bind_eq_some_iff.2 ⟨_, Json.readsBack_int64.latest? isObject grace, ?_⟩
    rfl
  read_null := rfl

-- ============================================================== objects

/-- A kind whose specifications are read back. -/
class LawfulSpec (σ : Type) [Spec σ] : Prop where
  readsBack : ReadsBack (Spec.read? (σ := σ)) Spec.toJson

instance : LawfulSpec RouteSpec := ⟨RouteSpec.readsBack⟩

instance : LawfulSpec GatewaySpec := ⟨GatewaySpec.readsBack⟩

namespace Object

variable {σ : Type} [Spec σ]

/-- Objects are written as object values. -/
theorem isObject_toJson (o : Object σ) : o.toJson.IsObject :=
  isObject_object _

/-- An object is read back from its written form. -/
theorem ofJson?_toJson [LawfulSpec σ] (o : Object σ) : Object.ofJson? o.toJson = some o := by
  have parts : o.toJson.get? "metadata" = some o.metadata.toJson
      ∧ o.toJson.get? "spec" = some (Spec.toJson o.spec) := by
    simp [Object.toJson]
  obtain ⟨metadata, spec⟩ := parts
  simp only [Object.ofJson?, Object.read?, o.isObject_toJson.record?_document,
    Json.required?_members, Option.bind_eq_bind, Option.bind_some,
    Metadata.readsBack.requiredField? metadata, LawfulSpec.readsBack.requiredField? spec]

end Object

end SharedGateway
