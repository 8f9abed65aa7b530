/-
Values part by part.

What holds of a value whenever it holds of its parts holds of every value
(`Json.nested`). The type nests values in lists and lists of pairs, so the recursor
that comes with it speaks of three kinds of thing at once; `nested` says the same of
values alone, with what is to be shown at hand for each item and for each field. The
laws of merging, of applying and of comparing are all inductions of this form.

A promise about whole values is one about the fields of an object and the items of a
list (`orderedFields_iff`, `orderedItems_iff`), so an induction step needs no more
than the promise for the value under each name (`Ordered.of_fields`,
`Ordered.of_value`).

Values that are alike show the same to every question about their parts, and two
objects are alike if what they have under each name is (`IsObject.alike`): likeness,
like equality, is shown field by field.
-/
import SharedGateway.Json.Comparison
import SharedGateway.Proofs.Json.Reading

namespace SharedGateway.Json

-- ============================================================ induction

/-- Induction over a value, with what is to be shown at hand for the items of a
list and for the values of an object's fields. -/
@[elab_as_elim]
theorem nested {motive : Json → Prop} (null : motive .null) (bool : ∀ b, motive (.bool b))
    (int : ∀ n, motive (.int n)) (real : ∀ x, motive (.real x))
    (str : ∀ text, motive (.str text))
    (arr : ∀ items, (∀ v ∈ items, motive v) → motive (.arr items))
    (obj : ∀ fields, (∀ field ∈ fields, motive field.2) → motive (.obj fields)) (v : Json) :
    motive v := by
  refine @Json.rec motive (fun items => ∀ v ∈ items, motive v)
    (fun fields => ∀ field ∈ fields, motive field.2) (fun field => motive field.2)
    null bool int real str arr obj ?_ ?_ ?_ ?_ ?_ v
  · simp
  · intro item rest ofItem ofRest
    exact List.forall_mem_cons.2 ⟨ofItem, ofRest⟩
  · simp
  · intro field rest ofField ofRest
    exact List.forall_mem_cons.2 ⟨ofField, ofRest⟩
  · intro name value ofValue
    exact ofValue

-- ================================================================ order

/-- A list is ordered if its items are. -/
theorem orderedItems_iff {items : List Json} :
    OrderedItems items ↔ ∀ v ∈ items, Ordered v := by
  induction items with
  | nil => simp [OrderedItems]
  | cons v rest ih => simp [OrderedItems, ih]

/-- Fields are ordered if their values are. -/
theorem orderedFields_iff {fields : Fields} :
    OrderedFields fields ↔ ∀ field ∈ fields, Ordered field.2 := by
  induction fields with
  | nil => simp [OrderedFields]
  | cons field rest ih => simp [OrderedFields, ih]

mutual

/-- Whether a value is ordered all the way down is found by going through it once. -/
def decideOrdered : (v : Json) → Decidable (Ordered v)
  | .arr items => decideOrderedItems items
  | .obj fields =>
    have := decideOrderedFields fields
    inferInstanceAs (Decidable (fields.Pairwise (fun a b => a.1 < b.1) ∧ OrderedFields fields))
  | .null => .isTrue trivial
  | .bool _ => .isTrue trivial
  | .int _ => .isTrue trivial
  | .real _ => .isTrue trivial
  | .str _ => .isTrue trivial
termination_by structural v => v

def decideOrderedItems : (items : List Json) → Decidable (OrderedItems items)
  | [] => .isTrue trivial
  | v :: rest =>
    have := decideOrdered v
    have := decideOrderedItems rest
    inferInstanceAs (Decidable (Ordered v ∧ OrderedItems rest))
termination_by structural items => items

def decideOrderedFields : (fields : Fields) → Decidable (OrderedFields fields)
  | [] => .isTrue trivial
  | (_, v) :: rest =>
    have := decideOrdered v
    have := decideOrderedFields rest
    inferInstanceAs (Decidable (Ordered v ∧ OrderedFields rest))
termination_by structural fields => fields

end

instance (v : Json) : Decidable (Ordered v) := decideOrdered v

variable {v w : Json} {fields : Fields}

/-- Every value in an ordered object is ordered. -/
theorem OrderedFields.of_field? {name : String} (h : OrderedFields fields)
    (found : field? name fields = some v) : Ordered v :=
  orderedFields_iff.1 h _ (mem_of_field? found)

/-- An object is ordered if its names ascend and what it has under each is. -/
theorem Ordered.of_fields (ascending : Ascending fields)
    (each : ∀ name v, field? name fields = some v → Ordered v) : Ordered (.obj fields) := by
  refine ⟨ascending, orderedFields_iff.2 fun (name, v) member => each name v ?_⟩
  rw [← valueAt?_eq_field?]
  exact Table.valueAt?_of_mem ascending member

/-- The fields of an ordered value ascend and are ordered; most values have none. -/
theorem Ordered.of_value (h : Ordered v) : Ascending v.fields ∧ OrderedFields v.fields := by
  cases v with
  | obj fields => exact h
  | _ => exact ⟨.nil, trivial⟩

-- =========================================================== comparison

/-- Items are compared one by one. -/
theorem comparedItems_eq_map (items : List Json) : comparedItems items = items.map compared := by
  induction items with
  | nil => rfl
  | cons v rest ih => simp [comparedItems, ih]

/-- Comparing keeps the names, so it may be done before or after a lookup. -/
theorem field?_comparedFields (name : String) (fields : Fields) :
    field? name (comparedFields fields) = (field? name fields).map compared := by
  induction fields with
  | nil => rfl
  | cons field rest ih =>
    obtain ⟨n, v⟩ := field
    by_cases same : n = name <;> simp [comparedFields, field?, same, ih]

/-- The names of a compared object still ascend, for they are the same names. -/
theorem ascending_comparedFields (h : Ascending fields) : Ascending (comparedFields fields) := by
  have names (fields : Fields) : (comparedFields fields).map (·.1) = fields.map (·.1) := by
    induction fields with
    | nil => rfl
    | cons field rest ih => simp [comparedFields, ih]
  rw [Ascending, ← List.pairwise_map (f := Prod.fst) (R := (· < ·)), names]
  exact List.pairwise_map.2 h

/-- Values that are alike have fields that are alike. -/
theorem get?_compared (v : Json) (name : String) :
    v.compared.get? name = (v.get? name).map compared := by
  cases v with
  | obj fields => exact field?_comparedFields name fields
  | _ => rfl

/-- Every value is like itself. -/
theorem Alike.refl (v : Json) : v.Alike v := rfl

/-- Objects are alike if what they have under each name is. -/
theorem IsObject.alike (hv : IsObject v) (hw : IsObject w)
    (same : ∀ name, (v.get? name).map compared = (w.get? name).map compared) : v.Alike w := by
  have isCompared {v : Json} (h : IsObject v) : IsObject v.compared := by
    rw [h.eq_obj]
    exact ⟨rfl, ascending_comparedFields h.ascending⟩
  refine (isCompared hv).ext (isCompared hw) fun name => ?_
  rw [get?_compared, get?_compared]
  exact same name

end SharedGateway.Json
