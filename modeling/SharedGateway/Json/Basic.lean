/-
JSON values. A number is either an integer of 64 bits or a double. The two are
told apart even where they are equal, because a field that wants an integer
takes no `443.0`.

The fields of an object form a list in ascending order of names. Every
operation below keeps that order, so two objects with the same fields are the
same value however they were built; `Json.Ordered` says so of a whole value.
-/
import SharedGateway.Double.Basic

namespace SharedGateway

/-- A JSON value. -/
inductive Json where
  | null
  | bool (value : Bool)
  | int (value : Int)
  /-- A number that was written with a fraction or an exponent, or an integer
  beyond 64 bits. -/
  | real (value : Double)
  | str (text : String)
  | arr (items : List Json)
  | obj (fields : List (String × Json))
  deriving Repr, Inhabited

namespace Json

/-- The named values of an object. -/
abbrev Fields := List (String × Json)

-- ============================================================= equality

mutual

/-- Are the two values equal? -/
def same : Json → Json → Bool
  | .null, .null => true
  | .bool a, .bool b => a == b
  | .int a, .int b => a == b
  | .real a, .real b => a == b
  | .str a, .str b => a == b
  | .arr a, .arr b => sameItems a b
  | .obj a, .obj b => sameFields a b
  | _, _ => false
termination_by structural a => a

/-- Are the two lists equal item by item? -/
def sameItems : List Json → List Json → Bool
  | [], [] => true
  | x :: xs, y :: ys => same x y && sameItems xs ys
  | _, _ => false
termination_by structural xs => xs

/-- Are the two lists equal field by field? -/
def sameFields : Fields → Fields → Bool
  | [], [] => true
  | (m, x) :: xs, (n, y) :: ys => m == n && same x y && sameFields xs ys
  | _, _ => false
termination_by structural xs => xs

end

mutual

theorem same_iff : ∀ {a b : Json}, same a b = true ↔ a = b
  | .null, b => by cases b <;> simp [same]
  | .bool _, b => by cases b <;> simp [same]
  | .int _, b => by cases b <;> simp [same]
  | .real _, b => by cases b <;> simp [same]
  | .str _, b => by cases b <;> simp [same]
  | .arr _, b => by cases b <;> simp [same, sameItems_iff]
  | .obj _, b => by cases b <;> simp [same, sameFields_iff]

theorem sameItems_iff : ∀ {a b : List Json}, sameItems a b = true ↔ a = b
  | [], b => by cases b <;> simp [sameItems]
  | x :: xs, b => by
    cases b with
    | nil => simp [sameItems]
    | cons y ys => simp [sameItems, same_iff (a := x), sameItems_iff (a := xs)]

theorem sameFields_iff : ∀ {a b : Fields}, sameFields a b = true ↔ a = b
  | [], b => by cases b <;> simp [sameFields]
  | (m, x) :: xs, b => by
    cases b with
    | nil => simp [sameFields]
    | cons y ys =>
      obtain ⟨n, y⟩ := y
      simp [sameFields, same_iff (a := x), sameFields_iff (a := xs)]

end

instance : DecidableEq Json := fun _ _ => decidable_of_iff _ same_iff

-- =============================================================== fields

/-- The value of the field of that name. -/
def field? (name : String) : Fields → Option Json
  | [] => none
  | (n, v) :: rest => if n = name then some v else field? name rest

/-- The fields with `name` set to `value`: in its place if the name is there,
else before the first greater name. -/
def setField (name : String) (value : Json) : Fields → Fields
  | [] => [(name, value)]
  | (n, v) :: rest =>
    if n = name then (name, value) :: rest
    else if name < n then (name, value) :: (n, v) :: rest
    else (n, v) :: setField name value rest

/-- The fields without the one of that name. -/
def eraseField (name : String) (fields : Fields) : Fields :=
  fields.filter fun field => field.1 ≠ name

/-- The field that was set is found, and nothing else changes. -/
theorem field?_setField (name other : String) (value : Json) (fields : Fields) :
    field? other (setField name value fields)
      = if name = other then some value else field? other fields := by
  induction fields with
  | nil => rfl
  | cons field rest ih =>
    obtain ⟨n, v⟩ := field
    simp only [setField]
    split
    · rename_i same
      subst same
      by_cases h : n = other <;> simp [field?, h]
    · rename_i differ
      split
      · rfl
      · by_cases h : n = other
        · subst h
          simp [field?, Ne.symm differ]
        · simp [field?, h, ih]

/-- An erased field is not found, and nothing else changes. -/
theorem field?_eraseField (name other : String) (fields : Fields) :
    field? other (eraseField name fields)
      = if name = other then none else field? other fields := by
  induction fields with
  | nil => simp [field?, eraseField]
  | cons field rest ih =>
    obtain ⟨n, v⟩ := field
    unfold eraseField at ih ⊢
    by_cases hn : n = name
    · subst hn
      by_cases h : n = other <;> simp_all [field?]
    · by_cases h : n = other
      · subst h
        simp [field?, hn, Ne.symm hn]
      · simp_all [field?]

/-- A value that is found under a name is one of the fields. -/
theorem mem_of_field? {name : String} {value : Json} {fields : Fields}
    (h : field? name fields = some value) : (name, value) ∈ fields := by
  induction fields with
  | nil => simp [field?] at h
  | cons field rest ih =>
    obtain ⟨n, v⟩ := field
    simp only [field?] at h
    split at h
    · rename_i same
      simp_all
    · exact List.mem_cons_of_mem _ (ih h)

/-- The fields of an object; no other value has any. -/
def fields : Json → Fields
  | .obj fields => fields
  | _ => []

/-- The value of a field, if this is an object that has it. -/
def get? (value : Json) (name : String) : Option Json :=
  field? name value.fields

/-- The text, if this is one. -/
def text? : Json → Option String
  | .str text => some text
  | _ => none

/-- An object of the entries that carry a value. -/
def object (entries : List (String × Option Json)) : Json :=
  .obj <| entries.foldr (fun entry fields =>
    match entry.2 with
    | some value => setField entry.1 value fields
    | none => fields) []

/-- An optional value, with `null` for its absence. -/
def orNull : Option Json → Json
  | some value => value
  | none => .null

/-- A list of texts. -/
def strings (texts : List String) : Json :=
  .arr (texts.map .str)

-- ================================================================ order

/-- The names ascend. -/
def Ascending (fields : Fields) : Prop :=
  fields.Pairwise fun a b => a.1 < b.1

mutual

/-- In every object of the value the names ascend. -/
def Ordered : Json → Prop
  | .arr items => OrderedItems items
  | .obj fields => Ascending fields ∧ OrderedFields fields
  | _ => True
termination_by structural a => a

/-- Every item is ordered. -/
def OrderedItems : List Json → Prop
  | [] => True
  | x :: xs => Ordered x ∧ OrderedItems xs
termination_by structural xs => xs

/-- The value of every field is ordered. -/
def OrderedFields : Fields → Prop
  | [] => True
  | (_, x) :: xs => Ordered x ∧ OrderedFields xs
termination_by structural xs => xs

end

/-- Setting a field brings in no name but its own. -/
theorem name_of_mem_setField {name : String} {value : Json} {fields : Fields}
    {field : String × Json} (h : field ∈ setField name value fields) :
    field.1 = name ∨ field ∈ fields := by
  induction fields with
  | nil => simp_all [setField]
  | cons first rest ih =>
    obtain ⟨n, v⟩ := first
    simp only [setField] at h
    split at h
    · rcases List.mem_cons.1 h with rfl | h
      · exact .inl rfl
      · exact .inr (List.mem_cons_of_mem _ h)
    · split at h
      · rcases List.mem_cons.1 h with rfl | h
        · exact .inl rfl
        · exact .inr h
      · rcases List.mem_cons.1 h with rfl | h
        · exact .inr List.mem_cons_self
        · exact (ih h).imp_right (List.mem_cons_of_mem _)

/-- Setting a field keeps the order of the names. -/
theorem ascending_setField {name : String} {value : Json} {fields : Fields}
    (h : Ascending fields) : Ascending (setField name value fields) := by
  induction fields with
  | nil => exact List.pairwise_singleton _ _
  | cons first rest ih =>
    obtain ⟨n, v⟩ := first
    obtain ⟨head, tail⟩ := List.pairwise_cons.1 h
    simp only [setField]
    split
    · rename_i same
      subst same
      exact List.pairwise_cons.2 ⟨head, tail⟩
    · rename_i differ
      split
      · rename_i before
        refine List.pairwise_cons.2 ⟨fun field member => ?_, h⟩
        rcases List.mem_cons.1 member with rfl | member
        · exact before
        · exact String.lt_trans before (head field member)
      · rename_i notBefore
        refine List.pairwise_cons.2 ⟨fun field member => ?_, ih tail⟩
        rcases name_of_mem_setField member with same | member
        · have after : n ≤ name := String.not_lt.1 notBefore
          rcases Classical.em (n < name) with h | h
          · exact same ▸ h
          · exact absurd (String.le_antisymm after (String.not_lt.1 h)) differ
        · exact head field member

/-- Setting a field to an ordered value keeps every value ordered. -/
theorem orderedFields_setField {name : String} {value : Json} {fields : Fields}
    (hv : Ordered value) (h : OrderedFields fields) :
    OrderedFields (setField name value fields) := by
  induction fields with
  | nil => exact ⟨hv, trivial⟩
  | cons first rest ih =>
    obtain ⟨n, v⟩ := first
    simp only [setField]
    split
    · exact ⟨hv, h.2⟩
    · split
      · exact ⟨hv, h⟩
      · exact ⟨h.1, ih h.2⟩

/-- Erasing a field keeps the order of the names. -/
theorem ascending_eraseField {name : String} {fields : Fields} (h : Ascending fields) :
    Ascending (eraseField name fields) :=
  h.filter _

/-- The names of an object made of entries ascend, in whatever order the
entries come. -/
theorem ascending_object (entries : List (String × Option Json)) :
    Ascending (object entries).fields := by
  induction entries with
  | nil => exact List.Pairwise.nil
  | cons entry rest ih =>
    obtain ⟨name, value⟩ := entry
    cases value with
    | none => exact ih
    | some value => exact ascending_setField ih

/-- An object made of entries has, under each name, the value of the first
entry with that name that carries one. -/
theorem field?_object (name : String) (entries : List (String × Option Json)) :
    field? name (object entries).fields
      = entries.findSome? fun entry => if entry.1 = name then entry.2 else none := by
  induction entries with
  | nil => rfl
  | cons entry rest ih =>
    obtain ⟨n, value⟩ := entry
    cases value with
    | none =>
      have skip : (object ((n, none) :: rest)).fields = (object rest).fields := rfl
      rw [skip, ih]
      simp
    | some value =>
      have set : (object ((n, some value) :: rest)).fields
          = setField n value (object rest).fields := rfl
      rw [set, field?_setField, ih]
      by_cases h : n = name <;> simp [h]

end Json

end SharedGateway
