/-
Field by field: what a merge patch and an applied value do to an object.

Both take the fields of the incoming object in turn and change the target by each.
Since the names of the incoming object ascend, no name comes up twice, and a change
of one name leaves what is found under every other name alone. So each field of the
result depends on one field of the target and on one field of the incoming object: by
induction on the incoming fields, what the result has under a name is `mergedField`
or `appliedField` of the two (`field?_mergeFields`, `field?_appliedFields`).

The names of the result ascend again (`ascending_mergeFields`,
`ascending_appliedFields`), so it is an object like the target, and what was shown of
it field by field is all there is to know. The operator's patches, the laws of
merging and the laws of applying are all read off these lookups; none of their proofs
looks at the fields as a list.
-/
import SharedGateway.Json.Apply
import SharedGateway.Json.MergePatch

namespace SharedGateway.Json

-- ============================================================== objects

/-- A name that all names follow is not there. -/
theorem field?_of_before {name : String} {fields : Fields}
    (h : ∀ field ∈ fields, name < field.1) : field? name fields = none := by
  cases found : field? name fields with
  | none => rfl
  | some v => exact absurd (h _ (mem_of_field? found)) (String.lt_irrefl name)

theorem field?_tail_eq_none {name : String} {value : Json} {rest : Fields}
    (h : Ascending ((name, value) :: rest)) : field? name rest = none :=
  field?_of_before (List.pairwise_cons.1 h).1

/-- A field of an object made of entries: the first entry of that name which
carries a value. -/
theorem get?_object (name : String) (entries : List (String × Option Json)) :
    (object entries).get? name
      = entries.findSome? fun entry => if entry.1 = name then entry.2 else none :=
  field?_object name entries

-- ============================================================= merging

/-- What a merge patch makes of one field: nothing if the patch does not name
it, no field if the patch says `null`, else the merged value. -/
def mergedField (old : Option Json) : Option Json → Option Json
  | none => old
  | some .null => none
  | some change => some (mergePatch (orNull old) change)

/-- The fields after one entry of a patch. -/
def mergeEntry (fields : Fields) (name : String) : Json → Fields
  | .null => eraseField name fields
  | change => setField name (mergePatch (orNull (field? name fields)) change) fields

theorem mergeFields_cons (fields : Fields) (name : String) (change : Json) (rest : Fields) :
    mergeFields fields ((name, change) :: rest)
      = mergeFields (mergeEntry fields name change) rest := by
  cases change <;> rfl

/-- One entry of a patch changes what is found under its own name only. -/
theorem field?_mergeEntry (name other : String) (change : Json) (fields : Fields) :
    field? other (mergeEntry fields name change)
      = if name = other then mergedField (field? name fields) (some change)
        else field? other fields := by
  cases change with
  | null => exact field?_eraseField name other fields
  | _ => exact field?_setField name other _ fields

/-- The names still ascend after one entry of a patch. -/
theorem ascending_mergeEntry {fields : Fields} (h : Ascending fields) (name : String)
    (change : Json) : Ascending (mergeEntry fields name change) := by
  cases change with
  | null => exact ascending_eraseField h
  | _ => exact ascending_setField h

/-- What is found under a name after a patch depends on what was found there before and
on what the patch has under it. The induction is on the patch: once the name has come
up, no later entry is about it. -/
theorem field?_mergeFields {patch : Fields} (ascending : Ascending patch)
    (name : String) (fields : Fields) :
    field? name (mergeFields fields patch)
      = mergedField (field? name fields) (field? name patch) := by
  induction patch generalizing fields with
  | nil => rfl
  | cons entry rest ih =>
    obtain ⟨n, change⟩ := entry
    rw [mergeFields_cons, ih (List.pairwise_cons.1 ascending).2, field?_mergeEntry]
    by_cases same : n = name
    · subst same
      rw [if_pos rfl, field?_tail_eq_none ascending]
      simp only [field?, ↓reduceIte, mergedField]
    · rw [if_neg same]
      simp only [field?, if_neg same]

/-- Merging leaves the names ascending, in whatever order the patch has its own. -/
theorem ascending_mergeFields {fields : Fields} (h : Ascending fields) (patch : Fields) :
    Ascending (mergeFields fields patch) := by
  induction patch generalizing fields with
  | nil => exact h
  | cons entry rest ih =>
    obtain ⟨n, change⟩ := entry
    rw [mergeFields_cons]
    exact ih (ascending_mergeEntry h n change)

/-- A field of the target after an object patch. -/
theorem get?_mergePatch {patch : Json} (ascending : Ascending patch.fields)
    (isObject : patch = .obj patch.fields) (target : Json) (name : String) :
    (target.mergePatch patch).get? name
      = mergedField (target.get? name) (patch.get? name) := by
  rw [isObject]
  exact field?_mergeFields ascending name target.fields

/-- The names of a target ascend after an object patch. -/
theorem ascending_mergePatch {target patch : Json} (h : Ascending target.fields)
    (isObject : patch = .obj patch.fields) : Ascending (target.mergePatch patch).fields := by
  rw [isObject]
  exact ascending_mergeFields h patch.fields

-- ============================================================ applying

/-- What an applied value makes of one field: a value that the target lacks is
taken over whole. -/
def appliedField (old : Option Json) : Option Json → Option Json
  | none => old
  | some value =>
    match old with
    | some old => some (applied old value)
    | none => some value

/-- What is found under a name after an applied value depends on what was found there
before and on what the value has under it. -/
theorem field?_appliedFields {value : Fields} (ascending : Ascending value)
    (name : String) (fields : Fields) :
    field? name (appliedFields fields value)
      = appliedField (field? name fields) (field? name value) := by
  induction value generalizing fields with
  | nil => rfl
  | cons entry rest ih =>
    obtain ⟨n, v⟩ := entry
    simp only [appliedFields]
    rw [ih (List.pairwise_cons.1 ascending).2, field?_setField]
    by_cases same : n = name
    · subst same
      rw [if_pos rfl, field?_tail_eq_none ascending]
      simp only [field?, ↓reduceIte, appliedField]
      cases field? n fields <;> rfl
    · rw [if_neg same]
      simp only [field?, if_neg same]

/-- Applying leaves the names ascending. -/
theorem ascending_appliedFields {fields : Fields} (h : Ascending fields) (value : Fields) :
    Ascending (appliedFields fields value) := by
  induction value generalizing fields with
  | nil => exact h
  | cons entry rest ih =>
    obtain ⟨n, v⟩ := entry
    simp only [appliedFields]
    exact ih (ascending_setField h)

/-- An object applied to an object, field by field. -/
theorem get?_applied {target value : Json} (ascending : Ascending value.fields)
    (isTarget : target = .obj target.fields) (isObject : value = .obj value.fields)
    (name : String) :
    (target.applied value).get? name
      = appliedField (target.get? name) (value.get? name) := by
  rw [isTarget, isObject]
  exact field?_appliedFields ascending name target.fields

theorem ascending_applied {target value : Json} (h : Ascending target.fields)
    (isTarget : target = .obj target.fields) (isObject : value = .obj value.fields) :
    Ascending (target.applied value).fields := by
  rw [isTarget, isObject]
  exact ascending_appliedFields h value.fields

end SharedGateway.Json
