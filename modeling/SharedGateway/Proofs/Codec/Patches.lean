/-
What the operator's three patches make of an object: the finalizers of a route, the
listeners of a gateway, the bookkeeping of a route.

# From one written form to another

Each patch turns the written form of an object into the written form of another, as
can be seen name by name: the metadata is the written form of other metadata, the
specification that of another specification, and all other names are left as they are
(`Object.eq_toJson`). Written forms are read back. So a store that takes the patch
keeps exactly the other object (`ofJson?_finalizersPatch`, `ofJson?_listenersPatch`,
`ofJson?_bookkeeping`), and the store, which merges values and knows nothing of
finalizers or listeners, needs to be reasoned about in terms of objects only.

# The version that a patch was made from

The first two patches carry the version of the object that they were made from, and
the store compares it with the version of the object it keeps
(`versionOfPatch?_finalizersPatch`, `versionOfPatch?_listenersPatch`). A patch of
listeners may meet another gateway than the one it was made from. What it leaves then
has nothing of the gateway it was made from but the listeners and the version
(`ofJson?_listenersPatch_of`); that the version keeps this from happening is shown
where the store is.
-/
import SharedGateway.Proofs.Codec.Objects
import SharedGateway.Reconcile
import SharedGateway.Store.Basic

namespace SharedGateway

open Json (isObject_object)

-- ======================================================= written forms

/-- Where a text is merged, or the lack of one, it stands afterwards. -/
theorem mergedField_text (old : Option Json) (text : Option String) :
    Json.mergedField old (some (Json.orNull (text.map .str))) = text.map .str := by
  cases text <;> rfl

/-- A value is the written form of an object if its two parts are, and the kind
and version of the API stand where they do. -/
theorem Object.eq_toJson {σ : Type} [Spec σ] {o o' : Object σ} {v : Json} (isObject : v.IsObject)
    (metadata : v.get? "metadata" = some o'.metadata.toJson)
    (spec : v.get? "spec" = some (Spec.toJson o'.spec))
    (others : ∀ name, "metadata" ≠ name → "spec" ≠ name → v.get? name = o.toJson.get? name) :
    v = o'.toJson := by
  refine isObject.ext o'.isObject_toJson fun name => ?_
  by_cases isMetadata : "metadata" = name
  · subst isMetadata
    rw [metadata]
    simp [Object.toJson]
  · by_cases isSpec : "spec" = name
    · subst isSpec
      rw [spec]
      simp [Object.toJson]
    · rw [others name isMetadata isSpec]
      simp [Object.toJson, isMetadata, isSpec]

-- ========================================================= finalizers

/-- The object with other finalizers and another version: what a patch of the
finalizers leaves. -/
def Object.refinalized {σ : Type} (o : Object σ) (finalizers : List String)
    (version : Option String) : Object σ :=
  { o with metadata :=
    { o.metadata with finalizers := some finalizers, resourceVersion := version } }

/-- What a patch of the finalizers says of the metadata. -/
def finalizersPart (m : Metadata) (finalizers : List String) : Json :=
  Json.object [
    ("finalizers", some (Json.strings finalizers)),
    ("resourceVersion", some (Json.orNull (m.resourceVersion.map .str)))]

/-- Merged into written metadata, it leaves metadata with the other finalizers. -/
theorem mergePatch_finalizersPart (m : Metadata) (finalizers : List String) :
    m.toJson.mergePatch (finalizersPart m finalizers)
      = { m with finalizers := some finalizers }.toJson := by
  have isPart : (finalizersPart m finalizers).IsObject := isObject_object _
  refine (m.isObject_toJson.mergePatch isPart).ext (Metadata.isObject_toJson _) fun name => ?_
  rw [isPart.get?_mergePatch]
  by_cases listed : "finalizers" = name
  · subst listed
    simp [finalizersPart, Metadata.toJson, Json.mergedField, Json.strings, Json.mergePatch]
  · by_cases version : "resourceVersion" = name
    · subst version
      simp [finalizersPart, Metadata.toJson, mergedField_text]
    · simp [finalizersPart, Metadata.toJson, Json.mergedField, listed, version]

/-- A route under new finalizers. -/
theorem ofJson?_finalizersPatch (route : Route) (finalizers : List String) :
    Object.ofJson? (route.toJson.mergePatch (Reconcile.finalizersPatch route finalizers))
      = some (route.refinalized finalizers route.resourceVersion) := by
  have isPatch : (Reconcile.finalizersPatch route finalizers).IsObject := isObject_object _
  have shape : Reconcile.finalizersPatch route finalizers
      = Json.object [("metadata", some (finalizersPart route.metadata finalizers))] := rfl
  have written : route.toJson.mergePatch (Reconcile.finalizersPatch route finalizers)
      = (route.refinalized finalizers route.resourceVersion).toJson := by
    refine Object.eq_toJson (o := route) (route.isObject_toJson.mergePatch isPatch) ?_ ?_
      fun name notMetadata _ => ?_
    · rw [isPatch.get?_mergePatch, shape]
      simp only [Object.toJson, Json.get?_object_cons, if_true, Option.some_or]
      exact congrArg some (mergePatch_finalizersPart route.metadata finalizers)
    · rw [isPatch.get?_mergePatch, shape]
      simp [Object.toJson, Json.mergedField, Object.refinalized]
    · rw [isPatch.get?_mergePatch, shape]
      simp [Json.mergedField, notMetadata]
  rw [written, Object.ofJson?_toJson]

/-- A patch of the finalizers states the version of the route it was made from. -/
theorem versionOfPatch?_finalizersPatch (route : Route) (finalizers : List String) :
    Store.versionOfPatch? (Reconcile.finalizersPatch route finalizers)
      = route.resourceVersion := by
  have shape : (Reconcile.finalizersPatch route finalizers).get? "metadata"
      = some (finalizersPart route.metadata finalizers) := by
    simp [Reconcile.finalizersPatch, finalizersPart, Object.resourceVersion]
  rw [Store.versionOfPatch?, shape, finalizersPart, Object.resourceVersion]
  cases route.metadata.resourceVersion <;> simp [Json.orNull, Json.text?]

-- ========================================================== listeners

/-- The gateway with other listeners. -/
def Object.withListeners (gateway : Gateway) (listeners : List Listener) : Gateway :=
  { gateway with spec := { gateway.spec with listeners } }

/-- What a patch of the listeners says of the metadata: the version that it is
made for. -/
def versionPart (m : Metadata) : Json :=
  Json.object [("resourceVersion", some (Json.orNull (m.resourceVersion.map .str)))]

/-- Merged into written metadata, it leaves metadata with that version. -/
theorem mergePatch_versionPart (m read : Metadata) :
    m.toJson.mergePatch (versionPart read)
      = { m with resourceVersion := read.resourceVersion }.toJson := by
  have isPart : (versionPart read).IsObject := isObject_object _
  refine (m.isObject_toJson.mergePatch isPart).ext (Metadata.isObject_toJson _) fun name => ?_
  rw [isPart.get?_mergePatch]
  by_cases version : "resourceVersion" = name
  · subst version
    simp [versionPart, Metadata.toJson, mergedField_text]
  · simp [versionPart, Metadata.toJson, Json.mergedField, version]

/-- What a patch of the listeners says of the specification. -/
def listenersPart (listeners : List Listener) : Json :=
  Json.object [("listeners", some (.arr (listeners.map Listener.toJson)))]

/-- Merged into a written specification, it replaces the listeners as a whole. -/
theorem mergePatch_listenersPart (spec : GatewaySpec) (listeners : List Listener) :
    spec.toJson.mergePatch (listenersPart listeners) = { spec with listeners }.toJson := by
  have isPart : (listenersPart listeners).IsObject := isObject_object _
  have isSpec : ∀ spec : GatewaySpec, spec.toJson.IsObject := fun _ => isObject_object _
  refine ((isSpec spec).mergePatch isPart).ext (isSpec _) fun name => ?_
  rw [isPart.get?_mergePatch]
  by_cases listed : "listeners" = name
  · subst listed
    simp [listenersPart, GatewaySpec.toJson, Json.mergedField, Json.mergePatch]
  · simp [listenersPart, GatewaySpec.toJson, Json.mergedField, listed]

/-- A gateway under new listeners, by a patch that was made from another: nothing
of the other one comes along but its version. -/
theorem ofJson?_listenersPatch_of (gateway read : Gateway) (listeners : List Listener) :
    Object.ofJson? (gateway.toJson.mergePatch (Sync.listenersPatch read listeners))
      = some { gateway.withListeners listeners with
          metadata := { gateway.metadata with resourceVersion := read.resourceVersion } } := by
  have isPatch : (Sync.listenersPatch read listeners).IsObject := isObject_object _
  have shape : Sync.listenersPatch read listeners = Json.object [
      ("metadata", some (versionPart read.metadata)),
      ("spec", some (listenersPart listeners))] := rfl
  have written : gateway.toJson.mergePatch (Sync.listenersPatch read listeners)
      = Object.toJson { gateway.withListeners listeners with
          metadata := { gateway.metadata with resourceVersion := read.resourceVersion } } := by
    refine Object.eq_toJson (o := gateway) (gateway.isObject_toJson.mergePatch isPatch) ?_ ?_
      fun name notMetadata notSpec => ?_
    · rw [isPatch.get?_mergePatch, shape]
      simp only [Object.toJson, Json.get?_object_cons, if_true, Option.some_or]
      exact congrArg some (mergePatch_versionPart gateway.metadata read.metadata)
    · rw [isPatch.get?_mergePatch, shape]
      simp only [Object.toJson, Json.get?_object_cons, if_true, Option.some_or]
      exact congrArg some (mergePatch_listenersPart gateway.spec listeners)
    · rw [isPatch.get?_mergePatch, shape]
      simp [Json.mergedField, notMetadata, notSpec]
  rw [written, Object.ofJson?_toJson]

theorem ofJson?_listenersPatch (gateway : Gateway) (listeners : List Listener) :
    Object.ofJson? (gateway.toJson.mergePatch (Sync.listenersPatch gateway listeners))
      = some (gateway.withListeners listeners) :=
  ofJson?_listenersPatch_of gateway gateway listeners

/-- A patch of the listeners states the version of the gateway it was made from. -/
theorem versionOfPatch?_listenersPatch (existing : Gateway) (listeners : List Listener) :
    Store.versionOfPatch? (Sync.listenersPatch existing listeners)
      = existing.resourceVersion := by
  have shape : (Sync.listenersPatch existing listeners).get? "metadata"
      = some (versionPart existing.metadata) := by
    simp [Sync.listenersPatch, versionPart, Object.resourceVersion]
  rw [Store.versionOfPatch?, shape, versionPart, Object.resourceVersion]
  cases existing.metadata.resourceVersion <;> simp [Json.orNull, Json.text?]

-- ======================================================== bookkeeping

/-- The annotations with the operator's two entries. -/
def recordedIn (annotations : Table String String) (current : ObjectRef) :
    Table String String :=
  (annotations.insert AnnotationKey.reconciled "true").insert
    AnnotationKey.previousGateway current.toText

/-- The operator's two entries, as they are applied. -/
def appliedAnnotations (current : ObjectRef) : Json :=
  Json.object [
    (AnnotationKey.reconciled, some (.str "true")),
    (AnnotationKey.previousGateway, some (.str current.toText))]

/-- Applied to a written table, the two entries are inserted. -/
theorem applied_appliedAnnotations (annotations : Table String String) (current : ObjectRef) :
    (Json.ofTextTable annotations).applied (appliedAnnotations current)
      = Json.ofTextTable (recordedIn annotations current) := by
  have isOld := Json.isObject_ofTextTable annotations
  have isNew : (appliedAnnotations current).IsObject := isObject_object _
  refine (isOld.applied isNew).ext (Json.isObject_ofTextTable _) fun name => ?_
  rw [isOld.get?_applied isNew, Json.get?_ofTextTable, Json.get?_ofTextTable, recordedIn,
    Table.find?_insert, Table.find?_insert]
  simp only [appliedAnnotations, Json.get?_object_cons, Json.get?_object_nil]
  by_cases previous : AnnotationKey.previousGateway = name
  · subst previous
    have differ : AnnotationKey.reconciled ≠ AnnotationKey.previousGateway := by decide
    cases annotations.find? AnnotationKey.previousGateway <;>
      simp [differ, Json.appliedField, Json.applied]
  · by_cases reconciled : AnnotationKey.reconciled = name
    · subst reconciled
      cases annotations.find? AnnotationKey.reconciled <;>
        simp [previous, Json.appliedField, Json.applied]
    · simp [previous, reconciled, Json.appliedField]

/-- The annotations of a route after the two entries were applied, whether it
had any before or not. -/
theorem appliedField_appliedAnnotations (annotations : Option (Table String String))
    (current : ObjectRef) :
    Json.appliedField (annotations.map Json.ofTextTable) (some (appliedAnnotations current))
      = some (Json.ofTextTable (recordedIn (annotations.getD .empty) current)) := by
  cases annotations with
  | some table => exact congrArg some (applied_appliedAnnotations table current)
  | none =>
    have fresh : (Json.ofTextTable .empty).applied (appliedAnnotations current)
        = appliedAnnotations current := by
      have isEmpty := Json.isObject_ofTextTable .empty
      have isNew : (appliedAnnotations current).IsObject := isObject_object _
      refine (isEmpty.applied isNew).ext isNew fun name => ?_
      rw [isEmpty.get?_applied isNew, Json.get?_ofTextTable]
      cases (appliedAnnotations current).get? name <;> rfl
    exact congrArg some (fresh.symm.trans (applied_appliedAnnotations .empty current))

theorem appliedField_text (old : Option String) (text : String) :
    Json.appliedField (old.map .str) (some (.str text)) = some (.str text) := by
  cases old <;> simp [Json.appliedField, Json.applied]

/-- The metadata with a gateway in the bookkeeping, named by the key. -/
def Metadata.recorded (m : Metadata) (key current : ObjectRef) : Metadata :=
  { m with
    name := some key.name
    ns := some key.ns
    annotations := some (recordedIn (m.annotations.getD .empty) current) }

/-- What the applied value says of the metadata. -/
def bookkeepingPart (key current : ObjectRef) : Json :=
  Json.object [
    ("annotations", some (appliedAnnotations current)),
    ("name", some (.str key.name)),
    ("namespace", some (.str key.ns))]

/-- Applied to written metadata, it leaves metadata with the gateway recorded. -/
theorem applied_bookkeepingPart (m : Metadata) (key current : ObjectRef) :
    m.toJson.applied (bookkeepingPart key current) = (m.recorded key current).toJson := by
  have isPart : (bookkeepingPart key current).IsObject := isObject_object _
  have isMetadata := m.isObject_toJson
  refine (isMetadata.applied isPart).ext (Metadata.isObject_toJson _) fun name => ?_
  rw [isMetadata.get?_applied isPart]
  by_cases annotated : "annotations" = name
  · subst annotated
    simp [bookkeepingPart, Metadata.toJson, Metadata.recorded, appliedField_appliedAnnotations]
  · by_cases named : "name" = name
    · subst named
      simp [bookkeepingPart, Metadata.toJson, Metadata.recorded, appliedField_text]
    · by_cases housed : "namespace" = name
      · subst housed
        simp [bookkeepingPart, Metadata.toJson, Metadata.recorded, appliedField_text]
      · simp [bookkeepingPart, Metadata.toJson, Metadata.recorded, Json.appliedField, annotated,
          named, housed]

/-- The route with a gateway in its bookkeeping, and named by its key. -/
def Object.recorded (route : Route) (key current : ObjectRef) : Route :=
  { route with metadata := route.metadata.recorded key current }

/-- A route whose gateway was recorded. -/
theorem ofJson?_bookkeeping (route : Route) (key current : ObjectRef) :
    Object.ofJson? (route.toJson.applied (Reconcile.bookkeeping key current))
      = some (route.recorded key current) := by
  have isValue : (Reconcile.bookkeeping key current).IsObject := isObject_object _
  have shape : Reconcile.bookkeeping key current = Json.object [
      ("apiVersion", some (.str apiVersion)),
      ("kind", some (.str Kind.httpRoute.toText)),
      ("metadata", some (bookkeepingPart key current))] := rfl
  have written : route.toJson.applied (Reconcile.bookkeeping key current)
      = (route.recorded key current).toJson := by
    have isRoute := route.isObject_toJson
    refine Object.eq_toJson (o := route) (isRoute.applied isValue) ?_ ?_
      fun name notMetadata notSpec => ?_
    · rw [isRoute.get?_applied isValue, shape]
      simp only [Object.toJson, Json.get?_object_cons, if_true, Option.some_or]
      exact congrArg some (applied_bookkeepingPart route.metadata key current)
    · rw [isRoute.get?_applied isValue, shape]
      simp [Object.toJson, Json.appliedField, Object.recorded]
    · rw [isRoute.get?_applied isValue, shape]
      by_cases version : "apiVersion" = name
      · subst version
        simp [Object.toJson, Json.appliedField, Json.applied]
      · by_cases kind : "kind" = name
        · subst kind
          simp [Object.toJson, Json.appliedField, Json.applied, Spec.kind]
        · simp [Json.appliedField, notMetadata, version, kind]
  rw [written, Object.ofJson?_toJson]

end SharedGateway
