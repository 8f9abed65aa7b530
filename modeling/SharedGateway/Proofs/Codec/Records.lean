/-
The records inside objects are read back from their written form.

Every record is handled in the same three steps. Its written form is an object, made
of entries of which some carry no value. Under each name that object has the part of
the record that belongs there, written (this is what `simp` computes from the writer
alone). The reader then asks for each of these fields in its own way, required,
optional or with a default, and `ReadsBack` of the part answers it. So a proof below
lists the names with what stands under them, and nothing else: a field that is added
to a record adds one line to the list and one to the answers.

Two records do not fit. An infrastructure leaves out its annotations when there are
none and reads a missing table as an empty one. A set of fields (`FieldSet`) is any
value whose names ascend; it is no record but is kept as it was read.

The records come in the order in which they contain each other: listeners, then the
specifications of routes and gateways, and last the entries of the metadata that are
only carried along.
-/
import SharedGateway.Gateway.Basic
import SharedGateway.Proofs.Codec.Timestamps
import SharedGateway.Route.Basic

namespace SharedGateway

open Json (ReadsBack readsBack_text isObject_object optional?_members defaulted?_members
  required?_members)

-- ============================================================ listeners

/-- References to secrets are read back. -/
theorem SecretRef.readsBack : ReadsBack SecretRef.read? SecretRef.toJson where
  read_write s := by
    have isObject : s.toJson.IsObject := isObject_object _
    have fields : s.toJson.get? "group" = s.group.map .str
        ∧ s.toJson.get? "kind" = s.kind.map .str
        ∧ s.toJson.get? "name" = some (.str s.name)
        ∧ s.toJson.get? "namespace" = s.ns.map .str := by
      simp [SecretRef.toJson]
    obtain ⟨group, kind, name, ns⟩ := fields
    simp only [SecretRef.read?, isObject.record?_document,
      optional?_members, required?_members, Option.bind_eq_bind, Option.bind_some,
      readsBack_text.optionalField? group, readsBack_text.optionalField? kind,
      readsBack_text.requiredField? name, readsBack_text.optionalField? ns]
  read_null := rfl

/-- A mode is read back from its text, for the two texts differ. -/
theorem TlsMode.readsBack : ReadsBack TlsMode.read? fun mode => .str mode.toText where
  read_write mode := by cases mode <;> rfl
  read_null := rfl

/-- What a listener says of encryption is read back, with its secrets: the list of them
is left out when it is empty. -/
theorem Tls.readsBack : ReadsBack Tls.read? Tls.toJson where
  read_write t := by
    have isObject : t.toJson.IsObject := isObject_object _
    have fields : t.toJson.get? "mode" = t.mode.map (fun mode => .str mode.toText)
        ∧ t.toJson.get? "certificateRefs"
          = Json.listOrAbsent (t.certificates.map SecretRef.toJson) := by
      simp [Tls.toJson]
    obtain ⟨mode, certificates⟩ := fields
    simp only [Tls.read?, isObject.record?_document,
      optional?_members, defaulted?_members, Option.bind_eq_bind, Option.bind_some,
      TlsMode.readsBack.optionalField? mode,
      SecretRef.readsBack.defaultedField? certificates]
  read_null := rfl

theorem RouteSource.readsBack :
    ReadsBack RouteSource.read? fun source => .str source.toText where
  read_write source := by cases source <;> rfl
  read_null := rfl

theorem RouteNamespaces.readsBack : ReadsBack RouteNamespaces.read? RouteNamespaces.toJson where
  read_write r := by
    have isObject : r.toJson.IsObject := isObject_object _
    have source : r.toJson.get? "from" = r.source.map (fun source => .str source.toText) := by
      simp [RouteNamespaces.toJson]
    simp only [RouteNamespaces.read?, isObject.record?_document,
      optional?_members, Option.bind_eq_bind, Option.bind_some,
      RouteSource.readsBack.optionalField? source]
  read_null := rfl

/-- What a listener says of the routes it takes is read back. -/
theorem AllowedRoutes.readsBack : ReadsBack AllowedRoutes.read? AllowedRoutes.toJson where
  read_write a := by
    have isObject : a.toJson.IsObject := isObject_object _
    have namespaces : a.toJson.get? "namespaces" = a.namespaces.map RouteNamespaces.toJson := by
      simp [AllowedRoutes.toJson]
    simp only [AllowedRoutes.read?, isObject.record?_document,
      optional?_members, Option.bind_eq_bind, Option.bind_some,
      RouteNamespaces.readsBack.optionalField? namespaces]
  read_null := rfl

/-- Listeners are read back, with all that is in them. -/
theorem Listener.readsBack : ReadsBack Listener.read? Listener.toJson where
  read_write l := by
    have isObject : l.toJson.IsObject := isObject_object _
    have fields : l.toJson.get? "name" = some (.str l.name)
        ∧ l.toJson.get? "hostname" = l.hostname.map .str
        ∧ l.toJson.get? "port" = some (.int l.port.toInt)
        ∧ l.toJson.get? "protocol" = some (.str l.protocol)
        ∧ l.toJson.get? "tls" = l.tls.map Tls.toJson
        ∧ l.toJson.get? "allowedRoutes" = l.allowedRoutes.map AllowedRoutes.toJson := by
      simp [Listener.toJson]
    obtain ⟨name, hostname, port, protocol, tls, allowedRoutes⟩ := fields
    simp only [Listener.read?, isObject.record?_document,
      optional?_members, required?_members, Option.bind_eq_bind, Option.bind_some,
      readsBack_text.requiredField? name, readsBack_text.optionalField? hostname,
      Json.readsBack_int32.requiredField? port, readsBack_text.requiredField? protocol,
      Tls.readsBack.optionalField? tls, AllowedRoutes.readsBack.optionalField? allowedRoutes]
  read_null := rfl

-- ======================================================= specifications

/-- References to parents are read back. -/
theorem ParentRef.readsBack : ReadsBack ParentRef.read? ParentRef.toJson where
  read_write p := by
    have isObject : p.toJson.IsObject := isObject_object _
    have fields : p.toJson.get? "group" = p.group.map .str
        ∧ p.toJson.get? "kind" = p.kind.map .str
        ∧ p.toJson.get? "namespace" = p.ns.map .str
        ∧ p.toJson.get? "name" = some (.str p.name)
        ∧ p.toJson.get? "sectionName" = p.sectionName.map .str := by
      simp [ParentRef.toJson]
    obtain ⟨group, kind, ns, name, sectionName⟩ := fields
    simp only [ParentRef.read?, isObject.record?_document,
      optional?_members, required?_members, Option.bind_eq_bind, Option.bind_some,
      readsBack_text.optionalField? group, readsBack_text.optionalField? kind,
      readsBack_text.optionalField? ns, readsBack_text.requiredField? name,
      readsBack_text.optionalField? sectionName]
  read_null := rfl

/-- Specifications of routes are read back. Parents and hostnames are left out when
there are none, and read as none when they are left out. -/
theorem RouteSpec.readsBack : ReadsBack RouteSpec.read? RouteSpec.toJson where
  read_write s := by
    have isObject : s.toJson.IsObject := isObject_object _
    have fields : s.toJson.get? "parentRefs"
          = Json.listOrAbsent (s.parents.map ParentRef.toJson)
        ∧ s.toJson.get? "hostnames" = Json.listOrAbsent (s.hostnames.map .str) := by
      simp [RouteSpec.toJson]
    obtain ⟨parents, hostnames⟩ := fields
    simp only [RouteSpec.read?, isObject.record?_document,
      defaulted?_members, Option.bind_eq_bind, Option.bind_some,
      ParentRef.readsBack.defaultedField? parents,
      readsBack_text.defaultedField? hostnames]
  read_null := rfl

/-- Infrastructure is read back, with its annotations: a table that is left out was
empty. -/
theorem Infrastructure.readsBack : ReadsBack Infrastructure.read? Infrastructure.toJson where
  read_write i := by
    have isObject : i.toJson.IsObject := isObject_object _
    have written : i.toJson.get? "annotations" = Json.textTableOrAbsent i.annotations := by
      simp [Infrastructure.toJson]
    have annotations : i.toJson.defaultedField? "annotations" .empty Json.Document.textTable?
        = some i.annotations := by
      unfold Json.defaultedField?
      rw [written, Json.textTableOrAbsent]
      by_cases empty : i.annotations.isEmpty
      · have none_there : i.annotations = .empty :=
          Table.ext (List.isEmpty_iff.1 empty)
        rw [if_pos empty, none_there]
      · rw [if_neg empty]
        exact Json.readsBack_textTable.read_write i.annotations
    simp only [Infrastructure.read?, isObject.record?_document,
      defaulted?_members, Option.bind_eq_bind, Option.bind_some, annotations]
  read_null := rfl

/-- Specifications of gateways are read back. The listeners are written even if there
are none. -/
theorem GatewaySpec.readsBack : ReadsBack GatewaySpec.read? GatewaySpec.toJson where
  read_write s := by
    have isObject : s.toJson.IsObject := isObject_object _
    have fields : s.toJson.get? "gatewayClassName" = some (.str s.className)
        ∧ s.toJson.get? "listeners" = some (.arr (s.listeners.map Listener.toJson))
        ∧ s.toJson.get? "infrastructure" = s.infrastructure.map Infrastructure.toJson := by
      simp [GatewaySpec.toJson]
    obtain ⟨className, written, infrastructure⟩ := fields
    have listeners : s.toJson.defaultedField? "listeners" [] (Json.Document.list? Listener.read?)
        = some s.listeners := by
      unfold Json.defaultedField?
      rw [written]
      exact Listener.readsBack.list.read_write s.listeners
    simp only [GatewaySpec.read?, isObject.record?_document, optional?_members,
      defaulted?_members, required?_members, Option.bind_eq_bind, Option.bind_some,
      readsBack_text.requiredField? className, listeners,
      Infrastructure.readsBack.optionalField? infrastructure]
  read_null := rfl

-- ====================================================== carried along

/-- References to owners are read back. -/
theorem Owner.readsBack : ReadsBack Owner.read? Owner.toJson where
  read_write o := by
    have isObject : o.toJson.IsObject := isObject_object _
    have fields : o.toJson.get? "apiVersion" = (some o.apiVersion).map .str
        ∧ o.toJson.get? "kind" = (some o.kind).map .str
        ∧ o.toJson.get? "name" = (some o.name).map .str
        ∧ o.toJson.get? "uid" = (some o.uid).map .str
        ∧ o.toJson.get? "controller" = o.controller.map .bool
        ∧ o.toJson.get? "blockOwnerDeletion" = o.blockOwnerDeletion.map .bool := by
      simp [Owner.toJson]
    obtain ⟨apiVersion, kind, name, uid, controller, blockOwnerDeletion⟩ := fields
    simp only [Owner.read?, isObject.members?_document, isObject.latest?_members,
      isObject.latestOr?_members, Option.bind_eq_bind, Option.bind_some, Option.map_some,
      Option.getD_some, readsBack_text.optionalField? apiVersion,
      readsBack_text.optionalField? kind, readsBack_text.optionalField? name,
      readsBack_text.optionalField? uid, Json.readsBack_bool.optionalField? controller,
      Json.readsBack_bool.optionalField? blockOwnerDeletion]
  read_null := rfl

/-- A set of fields is a value whose names ascend, and every such value is read
back. -/
theorem FieldSet.readsBack : ReadsBack FieldSet.read? FieldSet.value where
  read_write s := by
    have back := Json.value?_document s.ordered
    unfold FieldSet.read?
    split
    · rename_i unread
      cases back.symm.trans unread
    · rename_i value read
      cases back.symm.trans read
      exact dif_neg s.notNull
  read_null := rfl

/-- The notes on who manages which fields are read back. -/
theorem ManagedFields.readsBack : ReadsBack ManagedFields.read? ManagedFields.toJson where
  read_write m := by
    have isObject : m.toJson.IsObject := isObject_object _
    have fields : m.toJson.get? "apiVersion" = m.apiVersion.map .str
        ∧ m.toJson.get? "manager" = m.manager.map .str
        ∧ m.toJson.get? "operation" = m.operation.map .str
        ∧ m.toJson.get? "subresource" = m.subresource.map .str
        ∧ m.toJson.get? "time" = m.time.map Timestamp.toJson
        ∧ m.toJson.get? "fieldsType" = m.fieldsType.map .str
        ∧ m.toJson.get? "fieldsV1" = m.fieldsV1.map FieldSet.value := by
      simp [ManagedFields.toJson]
    obtain ⟨apiVersion, manager, operation, subresource, time, fieldsType, fieldsV1⟩ := fields
    simp only [ManagedFields.read?, isObject.members?_document, isObject.latest?_members,
      Option.bind_eq_bind, Option.bind_some, readsBack_text.optionalField? apiVersion,
      readsBack_text.optionalField? manager, readsBack_text.optionalField? operation,
      readsBack_text.optionalField? subresource, Timestamp.readsBack.optionalField? time,
      readsBack_text.optionalField? fieldsType, FieldSet.readsBack.optionalField? fieldsV1]
  read_null := rfl

end SharedGateway
