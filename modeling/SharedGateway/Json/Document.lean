/-
JSON texts as they stand. A document keeps what a value forgets: the members of
an object in their order, those of one name side by side. It also has a place
for a part that is well formed and yet has no value, so that a reader who never
looks at that part can read the rest.

Main statements: the value of a document is ordered (`ordered_of_value?`), and
every ordered value is a document that has this value (`value?_document`).
-/
import SharedGateway.Json.Basic

namespace SharedGateway.Json

/-- A JSON text as it stands. -/
inductive Document where
  | null
  | bool (value : Bool)
  | int (value : Int)
  | real (value : Double)
  | str (text : String)
  | list (items : List Document)
  | object (members : List (String × Document))
  /-- A part without a value: a text or an object's name with half of a
  surrogate pair, a number beyond all doubles, a container that lies too deep. -/
  | valueless
  deriving Inhabited

namespace Document

/-- The members of an object as they stand. -/
abbrev Members := List (String × Document)

-- ================================================================ value

mutual

/-- The value of a document whose every part has one. Of two members with one
name the later counts. -/
def value? : Document → Option Json
  | .null => some .null
  | .bool b => some (.bool b)
  | .int n => some (.int n)
  | .real x => some (.real x)
  | .str text => some (.str text)
  | .list items => (values? items).map .arr
  | .object members => (fieldsOver? [] members).map .obj
  | .valueless => none
termination_by structural d => d

/-- The value of each item. -/
def values? : List Document → Option (List Json)
  | [] => some []
  | item :: rest =>
    match value? item with
    | some v => (values? rest).map (v :: ·)
    | none => none
termination_by structural items => items

/-- The fields with each member set in turn. -/
def fieldsOver? (fields : Fields) : Members → Option Fields
  | [] => some fields
  | (name, d) :: rest =>
    match value? d with
    | some v => fieldsOver? (setField name v fields) rest
    | none => none
termination_by structural members => members

end

mutual

/-- The value of a document is ordered. -/
theorem ordered_of_value? : ∀ {d : Document} {v : Json}, value? d = some v → Ordered v
  | .null, v, h => by cases h; trivial
  | .bool _, v, h => by cases h; trivial
  | .int _, v, h => by cases h; trivial
  | .real _, v, h => by cases h; trivial
  | .str _, v, h => by cases h; trivial
  | .list items, v, h => by
    simp only [value?, Option.map_eq_some_iff] at h
    obtain ⟨vs, found, rfl⟩ := h
    exact orderedItems_of_values? found
  | .object members, v, h => by
    simp only [value?, Option.map_eq_some_iff] at h
    obtain ⟨fields, found, rfl⟩ := h
    exact ordered_of_fieldsOver? found .nil trivial
  | .valueless, v, h => by cases h

theorem orderedItems_of_values? : ∀ {items : List Document} {vs : List Json},
    values? items = some vs → OrderedItems vs
  | [], vs, h => by cases h; trivial
  | item :: rest, vs, h => by
    simp only [values?] at h
    split at h
    · rename_i v found
      obtain ⟨ws, others, rfl⟩ := Option.map_eq_some_iff.1 h
      exact ⟨ordered_of_value? found, orderedItems_of_values? others⟩
    · cases h

theorem ordered_of_fieldsOver? : ∀ {members : Members} {done fields : Fields},
    fieldsOver? done members = some fields → Ascending done → OrderedFields done →
    Ascending fields ∧ OrderedFields fields
  | [], done, fields, h, ascending, ordered => by cases h; exact ⟨ascending, ordered⟩
  | (name, d) :: rest, done, fields, h, ascending, ordered => by
    simp only [fieldsOver?] at h
    split at h
    · rename_i v found
      exact ordered_of_fieldsOver? h (ascending_setField ascending)
        (orderedFields_setField (ordered_of_value? found) ordered)
    · cases h

end

end Document

-- ============================================== the document of a value

mutual

/-- The value as a document. -/
def document : Json → Document
  | .null => .null
  | .bool b => .bool b
  | .int n => .int n
  | .real x => .real x
  | .str text => .str text
  | .arr items => .list (documents items)
  | .obj fields => .object (members fields)
termination_by structural v => v

/-- Each item as a document. -/
def documents : List Json → List Document
  | [] => []
  | v :: rest => document v :: documents rest
termination_by structural items => items

/-- The fields as members. -/
def members : Fields → Document.Members
  | [] => []
  | (name, v) :: rest => (name, document v) :: members rest
termination_by structural fields => fields

end

/-- A member is found exactly where the field is. -/
theorem lookup_members (name : String) (fields : Fields) :
    (members fields).lookup name = (field? name fields).map document := by
  induction fields with
  | nil => rfl
  | cons field rest ih =>
    obtain ⟨n, v⟩ := field
    by_cases h : n = name
    · subst h
      simp [members, field?]
    · have h' : (name == n) = false := by simpa using Ne.symm h
      simp [members, field?, List.lookup_cons, h, h', ih]

/-- A field that comes after all others is set at the end. -/
theorem setField_of_after {name : String} {value : Json} {fields : Fields}
    (h : ∀ field ∈ fields, field.1 < name) :
    setField name value fields = fields ++ [(name, value)] := by
  induction fields with
  | nil => rfl
  | cons field rest ih =>
    obtain ⟨n, v⟩ := field
    have before : n < name := h (n, v) List.mem_cons_self
    have differ : n ≠ name := fun same => String.lt_irrefl name (same ▸ before)
    have notBefore : ¬ name < n := fun after =>
      String.lt_irrefl n (String.lt_trans before after)
    simp only [setField, if_neg differ, if_neg notBefore, List.cons_append]
    rw [ih fun field member => h field (List.mem_cons_of_mem _ member)]

mutual

/-- The document of a value has that value. -/
theorem value?_document : ∀ {v : Json}, Ordered v → (document v).value? = some v
  | .null, _ => rfl
  | .bool _, _ => rfl
  | .int _, _ => rfl
  | .real _, _ => rfl
  | .str _, _ => rfl
  | .arr items, h => by
    simp only [Ordered] at h
    simp [document, Document.value?, values?_documents h]
  | .obj fields, h => by
    simp only [Ordered] at h
    have all : Document.fieldsOver? [] (members fields) = some fields :=
      fieldsOver?_members h.2 h.1
    simp [document, Document.value?, all]

theorem values?_documents : ∀ {items : List Json}, OrderedItems items →
    Document.values? (documents items) = some items
  | [], _ => rfl
  | v :: rest, h => by
    simp only [OrderedItems] at h
    simp [documents, Document.values?, value?_document h.1, values?_documents h.2]

theorem fieldsOver?_members : ∀ {fields done : Fields}, OrderedFields fields →
    Ascending (done ++ fields) →
    Document.fieldsOver? done (members fields) = some (done ++ fields)
  | [], done, _, _ => by simp [members, Document.fieldsOver?]
  | (name, v) :: rest, done, h, ascending => by
    simp only [OrderedFields] at h
    have after : ∀ field ∈ done, field.1 < name := fun field member =>
      (List.pairwise_append.1 ascending).2.2 field member (name, v) List.mem_cons_self
    have next : Ascending ((done ++ [(name, v)]) ++ rest) := by simpa using ascending
    simp only [members, Document.fieldsOver?, value?_document h.1]
    rw [setField_of_after after, fieldsOver?_members h.2 next]
    simp

end

end SharedGateway.Json
