/-
Reading records out of values.

# What a reader is asked

A record's reader goes through the members of a document: some must come up once,
some may come up again and the last of them counts, some may be missing or have a
default. On the document of an object value none of this makes a difference, for
every member is a field and no field comes up twice. So a reader turns into a list of
questions to `get?`: must the field be there (`requiredField?`), may it be missing
(`optionalField?`), has it a default (`defaultedField?`). The lemmas that end in
`_members` make this turn, once for each way of going through the members.

# What was written is read back

`ReadsBack` is the property of a reader and a writer that is carried from the parts
of a record to the whole: reading undoes writing, and `null` is not read at all. The
second half is needed because a field that may be missing may also be `null`
(`ReadsBack.nullable?`); a reader that took `null` would read a written value as a
missing one. From there the property passes to optional fields, to lists, and to
lists that are left out when they are empty. At the bottom stand texts, truth values,
numbers within their range, and tables of texts.

# Objects are told by their fields

An object whose names ascend (`IsObject`) is the object value of a table, so two of
them are equal if every name finds the same in both (`IsObject.ext`). That is how the
operator's patches are shown to leave the written form of another object.
-/
import SharedGateway.Json.Decode
import SharedGateway.Json.Encode
import SharedGateway.Proofs.Json.Fields
import SharedGateway.Proofs.Table

namespace SharedGateway.Json

variable {α β : Type}

-- ============================================================== objects

/-- An object whose names ascend. -/
structure IsObject (v : Json) : Prop where
  eq_obj : v = .obj v.fields
  ascending : Ascending v.fields

/-- A value that is made of entries is an object. -/
theorem isObject_object (entries : List (String × Option Json)) :
    IsObject (object entries) :=
  ⟨rfl, ascending_object entries⟩

/-- An object is still one after an object patch. -/
theorem IsObject.mergePatch {target patch : Json} (h : IsObject target)
    (isPatch : IsObject patch) : IsObject (target.mergePatch patch) := by
  refine ⟨?_, ascending_mergePatch h.ascending isPatch.eq_obj⟩
  rw [isPatch.eq_obj]
  rfl

/-- An object is still one after an object was applied to it. -/
theorem IsObject.applied {target value : Json} (h : IsObject target)
    (isValue : IsObject value) : IsObject (target.applied value) := by
  refine ⟨?_, ascending_applied h.ascending h.eq_obj isValue.eq_obj⟩
  rw [h.eq_obj, isValue.eq_obj]
  rfl

/-- What an object patch leaves under a name. -/
theorem IsObject.get?_mergePatch {patch : Json} (h : IsObject patch) (target : Json)
    (name : String) : (target.mergePatch patch).get? name
      = mergedField (target.get? name) (patch.get? name) :=
  Json.get?_mergePatch h.ascending h.eq_obj target name

/-- What an applied object leaves under a name. -/
theorem IsObject.get?_applied {target value : Json} (h : IsObject target)
    (isValue : IsObject value) (name : String) : (target.applied value).get? name
      = appliedField (target.get? name) (value.get? name) :=
  Json.get?_applied isValue.ascending h.eq_obj isValue.eq_obj name

@[simp] theorem get?_object_nil (name : String) : (object []).get? name = none := rfl

/-- An object made of entries shows its first entry under that entry's name, if it
carries a value, and else what the other entries make of it. -/
@[simp] theorem get?_object_cons (name n : String) (value : Option Json)
    (rest : List (String × Option Json)) :
    (object ((n, value) :: rest)).get? name
      = if n = name then value.or ((object rest).get? name) else (object rest).get? name := by
  rw [get?_object, get?_object, List.findSome?_cons]
  by_cases same : n = name
  · rw [if_pos same, if_pos same]
    cases value <;> rfl
  · rw [if_neg same, if_neg same]

-- =============================================================== fields

/-- Reads a field that may be missing or `null`. -/
def optionalField? (v : Json) (name : String) (read : Document → Option α) :
    Option (Option α) :=
  match v.get? name with
  | none => some none
  | some field => Document.nullable? read field.document

/-- Reads a field that has a default when it is missing. -/
def defaultedField? (v : Json) (name : String) (default : α) (read : Document → Option α) :
    Option α :=
  match v.get? name with
  | none => some default
  | some field => read field.document

/-- Reads a field that must be there. -/
def requiredField? (v : Json) (name : String) (read : Document → Option α) : Option α :=
  (v.get? name).bind fun field => read field.document

namespace IsObject

variable {v : Json}

/-- The document of an object has the fields for members. -/
theorem document_eq (h : IsObject v) : v.document = .object (members v.fields) := by
  conv => lhs; rw [h.eq_obj]
  rfl

theorem members?_document (h : IsObject v) :
    v.document.members? = some (members v.fields) := by
  rw [h.document_eq]
  rfl

/-- An object passes for a record with any known names, since none of its names comes up
twice. -/
theorem record?_document (h : IsObject v) (names : List String) :
    v.document.record? names = some (members v.fields) := by
  rw [h.document_eq]
  exact Document.record?_members h.ascending names

/-- Of the members of an object the last one of a name is the only one. -/
theorem latest?_members (h : IsObject v) (name : String) (read : Document → Option α) :
    Document.latest? (members v.fields) name read = v.optionalField? name read := by
  rw [Document.latest?_members h.ascending, Document.optional?, lookup_members]
  unfold optionalField? get?
  cases field? name v.fields <;> rfl

theorem latestOr?_members (h : IsObject v) (name : String) (default : α)
    (read : Document → Option α) : Document.latestOr? (members v.fields) name default read
      = (v.optionalField? name read).map (·.getD default) := by
  rw [Document.latestOr?, h.latest?_members]

end IsObject

/-- A member that may be missing is a field that may be missing. -/
theorem optional?_members (v : Json) (name : String) (read : Document → Option α) :
    Document.optional? (members v.fields) name read = v.optionalField? name read := by
  unfold Document.optional? optionalField? get?
  rw [lookup_members]
  cases field? name v.fields <;> rfl

/-- A member with a default is a field with a default. -/
theorem defaulted?_members (v : Json) (name : String) (default : α)
    (read : Document → Option α) :
    Document.defaulted? (members v.fields) name default read
      = v.defaultedField? name default read := by
  unfold Document.defaulted? defaultedField? get?
  rw [lookup_members]
  cases field? name v.fields <;> rfl

/-- A member that must be there is a field that must be there. -/
theorem required?_members (v : Json) (name : String) (read : Document → Option α) :
    Document.required? (members v.fields) name read = v.requiredField? name read := by
  unfold Document.required? requiredField? get?
  rw [lookup_members]
  cases field? name v.fields <;> rfl

-- ========================================================= reading back

/-- The reader undoes the writer, and does not take `null`. -/
structure ReadsBack (read : Document → Option α) (write : α → Json) : Prop where
  read_write : ∀ a, read (write a).document = some a
  read_null : read .null = none

namespace ReadsBack

variable {read : Document → Option α} {write : α → Json}

/-- A written value is not taken for `null`, for `null` would not be read. -/
theorem nullable? (h : ReadsBack read write) (a : α) :
    Document.nullable? read (write a).document = some (some a) := by
  have taken := h.read_write a
  unfold Document.nullable?
  split
  · rename_i isNull
    rw [isNull, h.read_null] at taken
    cases taken
  · rw [taken]
    rfl

/-- An optional field that was written, or left out, is read back. -/
theorem optionalField? (h : ReadsBack read write) {v : Json} {name : String} {a : Option α}
    (written : v.get? name = a.map write) : v.optionalField? name read = some a := by
  unfold Json.optionalField?
  rw [written]
  cases a with
  | none => rfl
  | some a => exact h.nullable? a

/-- An optional field is read back also by a reader that takes the last of its name. -/
theorem latest? (h : ReadsBack read write) {v : Json} (isObject : v.IsObject) {name : String}
    {a : Option α} (written : v.get? name = a.map write) :
    Document.latest? (members v.fields) name read = some a :=
  (isObject.latest?_members name read).trans (h.optionalField? written)

/-- A field that was written is read back. -/
theorem requiredField? (h : ReadsBack read write) {v : Json} {name : String} {a : α}
    (written : v.get? name = some (write a)) : v.requiredField? name read = some a := by
  unfold Json.requiredField?
  rw [written]
  exact h.read_write a

/-- Lists are read back if their items are, by induction on the list. -/
theorem list (h : ReadsBack read write) :
    ReadsBack (Document.list? read) (fun l => .arr (l.map write)) where
  read_write := by
    intro l
    show (documents (l.map write)).mapM read = some l
    induction l with
    | nil => rfl
    | cons a rest ih =>
      show (document (write a) :: documents (rest.map write)).mapM read = some (a :: rest)
      rw [List.mapM_cons, h.read_write a, ih]
      rfl
  read_null := rfl

/-- A list field that is left out when it is empty is read back. -/
theorem defaultedField? (h : ReadsBack read write) {v : Json} {name : String} {l : List α}
    (written : v.get? name = listOrAbsent (l.map write)) :
    v.defaultedField? name [] (Document.list? read) = some l := by
  unfold Json.defaultedField?
  rw [written]
  cases l with
  | nil => rfl
  | cons a rest => exact h.list.read_write (a :: rest)

end ReadsBack

-- ================================================================ texts

theorem readsBack_text : ReadsBack Document.text? .str :=
  ⟨fun _ => rfl, rfl⟩

theorem readsBack_texts : ReadsBack (Document.list? Document.text?) strings :=
  readsBack_text.list

theorem readsBack_bool : ReadsBack Document.bool? .bool :=
  ⟨fun _ => rfl, rfl⟩

/-- A number that fits into 32 bits passes the range check when it is read. -/
theorem readsBack_int32 : ReadsBack Document.int32? (fun n : Int32 => .int n.toInt) where
  read_write n := by
    have bounds : Int32.minValue.toInt ≤ n.toInt ∧ n.toInt ≤ Int32.maxValue.toInt :=
      ⟨n.minValue_le_toInt, n.toInt_le⟩
    show (if Int32.minValue.toInt ≤ n.toInt ∧ n.toInt ≤ Int32.maxValue.toInt
      then some n.toInt else none).map Int32.ofInt = some n
    rw [if_pos bounds, Option.map_some, Int32.ofInt_toInt]
  read_null := rfl

/-- A number that fits into 64 bits passes the range check when it is read. -/
theorem readsBack_int64 : ReadsBack Document.int64? (fun n : Int64 => .int n.toInt) where
  read_write n := by
    have bounds : Int64.minValue.toInt ≤ n.toInt ∧ n.toInt ≤ Int64.maxValue.toInt :=
      ⟨n.minValue_le_toInt, n.toInt_le⟩
    show (if Int64.minValue.toInt ≤ n.toInt ∧ n.toInt ≤ Int64.maxValue.toInt
      then some n.toInt else none).map Int64.ofInt = some n
    rw [if_pos bounds, Option.map_some, Int64.ofInt_toInt]
  read_null := rfl

/-- A written table is an object: its keys ascend and are the names. -/
theorem isObject_ofTextTable (t : Table String String) : IsObject (ofTextTable t) where
  eq_obj := rfl
  ascending := List.pairwise_map.2 t.ascending

/-- A written table has under each name what the table has under that key. -/
theorem get?_ofTextTable (t : Table String String) (key : String) :
    (ofTextTable t).get? key = (t.find? key).map .str := by
  show field? key (t.entries.map fun entry => (entry.1, .str entry.2)) = _
  unfold Table.find?
  induction t.entries with
  | nil => rfl
  | cons entry rest ih =>
    obtain ⟨k, v⟩ := entry
    by_cases same : k = key
    · simp [field?, Table.valueAt?, same]
    · simpa [field?, Table.valueAt?, same] using ih

/-- The fields that a table of texts is written as. -/
def textFields (entries : List (String × String)) : Fields :=
  entries.map fun entry => (entry.1, .str entry.2)

/-- What a member of a table of texts is read as. -/
def textMember? (member : String × Document) : Option (String × String) :=
  member.2.text?.map fun text => (member.1, text)

/-- The members of a written table are read as its entries, in their order. -/
theorem mapM_textMember? (entries : List (String × String)) :
    (members (textFields entries)).mapM textMember? = some entries := by
  induction entries with
  | nil => rfl
  | cons entry rest ih =>
    show ((entry.1, Document.str entry.2) :: members (textFields rest)).mapM textMember? = _
    rw [List.mapM_cons, ih]
    rfl

/-- Tables of texts are read back: what was read entry by entry is inserted anew. -/
theorem readsBack_textTable : ReadsBack Document.textTable? ofTextTable where
  read_write t := by
    show ((members (textFields t.entries)).mapM textMember?).map Table.ofList = some t
    rw [mapM_textMember?, Option.map_some, Table.ofList_entries]
  read_null := rfl

-- ======================================================== extensionality

theorem valueAt?_eq_field? (name : String) (fields : Fields) :
    Table.valueAt? name fields = field? name fields := by
  induction fields with
  | nil => rfl
  | cons field rest ih =>
    obtain ⟨n, v⟩ := field
    simp only [Table.valueAt?, field?, ih]

/-- Objects are equal if every name finds the same in both. -/
theorem IsObject.ext {v w : Json} (hv : IsObject v) (hw : IsObject w)
    (h : ∀ name, v.get? name = w.get? name) : v = w := by
  have same : (⟨v.fields, hv.ascending⟩ : Table String Json) = ⟨w.fields, hw.ascending⟩ := by
    refine Table.ext_find? fun name => ?_
    show Table.valueAt? name v.fields = Table.valueAt? name w.fields
    rw [valueAt?_eq_field?, valueAt?_eq_field?]
    exact h name
  rw [hv.eq_obj, hw.eq_obj]
  exact congrArg (fun t : Table String Json => Json.obj t.entries) same

end SharedGateway.Json
