/-
The laws of merge patches.

# Merging settles

A patch that was merged changes nothing when it is merged again
(`mergePatch_mergePatch`). By induction on the patch it is enough to look at one
field: what the field becomes is said by `mergedField`, and merging looks at nothing
else. A field that the patch removes is gone and is removed from where it is not; a
field that it sets to anything but an object holds that value; where it descends, the
induction takes over.

# Merging in either order

Two patches may be merged in either order if where both name a field both descend
into it, all the way down (`Compatible`, `mergePatch_comm`): then neither asks for
anything that the other one contradicts, for they never set or remove the same field.
The target may be anything. Where a patch descends and the target has no object,
merging makes one, and so it does in the other order.

Both laws are about values whose names ascend, and merging leaves such values
(`ordered_mergePatch`), so they may be used of merged values again. They stand
together in `merging_settles_and_commutes`.
-/
import SharedGateway.Proofs.Json.Nested

namespace SharedGateway.Json

variable {target patch p q : Json}

-- ========================================================= single fields

/-- A change that is not `null` is merged into what is there, or into `null`. -/
theorem mergedField_some {old : Option Json} {change : Json} (keeps : change ≠ .null) :
    mergedField old (some change) = some (mergePatch (orNull old) change) := by
  cases change with
  | null => exact absurd rfl keeps
  | _ => rfl

/-- What merging starts from under a name is ordered: the value there, or `null`. -/
theorem OrderedFields.orNull {fields : Fields} (h : OrderedFields fields) (name : String) :
    Ordered (orNull (field? name fields)) := by
  cases found : field? name fields with
  | none => trivial
  | some v => exact h.of_field? found

/-- An object patch makes an object of every target. -/
theorem isObject_mergePatch (isPatch : IsObject patch) (h : Ordered target) :
    IsObject (target.mergePatch patch) := by
  refine ⟨?_, ascending_mergePatch h.of_value.1 isPatch.eq_obj⟩
  rw [isPatch.eq_obj]
  rfl

-- ============================================================ the laws

/-- Merging leaves the names of every object in order. -/
theorem ordered_mergePatch (ht : Ordered target) (hp : Ordered patch) :
    Ordered (target.mergePatch patch) := by
  induction patch using nested generalizing target with
  | obj patch ih =>
    obtain ⟨ascending, ordered⟩ := hp
    obtain ⟨ascending', ordered'⟩ := ht.of_value
    refine .of_fields (ascending_mergeFields ascending' patch) fun name v found => ?_
    rw [field?_mergeFields ascending] at found
    cases stated : field? name patch with
    | none =>
      rw [stated] at found
      exact ordered'.of_field? found
    | some change =>
      rw [stated] at found
      by_cases removes : change = .null
      · subst removes
        cases found
      · rw [mergedField_some removes] at found
        cases found
        exact ih _ (mem_of_field? stated) (ordered'.orNull name) (ordered.of_field? stated)
  | arr items => exact hp
  | _ => trivial

/-- A patch that was merged changes nothing when it is merged again. -/
theorem mergePatch_mergePatch (ht : Ordered target) (hp : Ordered patch) :
    (target.mergePatch patch).mergePatch patch = target.mergePatch patch := by
  induction patch using nested generalizing target with
  | obj patch ih =>
    have isPatch : IsObject (.obj patch) := ⟨rfl, hp.1⟩
    refine (isObject_mergePatch isPatch (ordered_mergePatch ht hp)).ext
      (isObject_mergePatch isPatch ht) fun name => ?_
    simp only [isPatch.get?_mergePatch]
    cases stated : (Json.obj patch).get? name with
    | none => rfl
    | some change =>
      by_cases removes : change = .null
      · subst removes
        rfl
      · simp only [mergedField_some removes]
        exact congrArg some (ih _ (mem_of_field? stated) (ht.of_value.2.orNull name)
          (hp.2.of_field? stated))
  | _ => rfl

-- ======================================================= compatibility

mutual

/-- Neither patch contradicts the other: both are objects, and where both name a
field, the two changes of it do not contradict each other either. -/
def Compatible : Json → Json → Prop
  | .obj p, .obj q => CompatibleFields p q
  | _, _ => False
termination_by structural p => p

/-- The changes of these fields do not contradict the other patch. -/
def CompatibleFields : Fields → Fields → Prop
  | [], _ => True
  | (name, change) :: rest, q =>
    (∀ other ∈ field? name q, Compatible change other) ∧ CompatibleFields rest q
termination_by structural p => p

end

mutual

/-- Whether two patches contradict each other is found by descending into both. -/
def decideCompatible : (p q : Json) → Decidable (Compatible p q)
  | .obj p, .obj q => decideCompatibleFields p q
  | .obj _, .null | .obj _, .bool _ | .obj _, .int _ | .obj _, .real _ | .obj _, .str _
  | .obj _, .arr _ | .null, _ | .bool _, _ | .int _, _ | .real _, _ | .str _, _ | .arr _, _ =>
    .isFalse id
termination_by structural p => p

def decideCompatibleFields : (p q : Fields) → Decidable (CompatibleFields p q)
  | [], _ => .isTrue trivial
  | (name, change) :: rest, q =>
    have := fun other => decideCompatible change other
    have := decideCompatibleFields rest q
    inferInstanceAs (Decidable
      ((∀ other ∈ field? name q, Compatible change other) ∧ CompatibleFields rest q))
termination_by structural p => p

end

instance (p q : Json) : Decidable (Compatible p q) := decideCompatible p q

/-- A change of a field that is compatible with another change removes nothing. -/
theorem Compatible.keeps (h : Compatible p q) : p ≠ .null ∧ q ≠ .null := by
  constructor
  · rintro rfl
    exact h
  · rintro rfl
    cases p <;> exact h

/-- Fields are compatible with a patch if each is with what the patch has under its
name. -/
theorem compatibleFields_iff {p q : Fields} : CompatibleFields p q
    ↔ ∀ field ∈ p, ∀ other ∈ field? field.1 q, Compatible field.2 other := by
  induction p with
  | nil => simp [CompatibleFields]
  | cons field rest ih =>
    rw [List.forall_mem_cons, ← ih]
    exact Iff.rfl

/-- Compatible patches may be merged in either order. -/
theorem mergePatch_comm (h : Compatible p q) (ht : Ordered target) (hp : Ordered p)
    (hq : Ordered q) :
    (target.mergePatch p).mergePatch q = (target.mergePatch q).mergePatch p := by
  induction p using nested generalizing target q with
  | obj p ih =>
    cases q with
    | obj q =>
      have shared := compatibleFields_iff.1 h
      have isP : IsObject (.obj p) := ⟨rfl, hp.1⟩
      have isQ : IsObject (.obj q) := ⟨rfl, hq.1⟩
      refine (isObject_mergePatch isQ (ordered_mergePatch ht hp)).ext
        (isObject_mergePatch isP (ordered_mergePatch ht hq)) fun name => ?_
      simp only [isP.get?_mergePatch, isQ.get?_mergePatch]
      cases ofP : (Json.obj p).get? name with
      | none => rfl
      | some change =>
        cases ofQ : (Json.obj q).get? name with
        | none => rfl
        | some other =>
          -- both descend into the field, and meet there as two patches of its value
          have inP := mem_of_field? ofP
          have compatible := shared _ inP other ofQ
          obtain ⟨keeps, keeps'⟩ := compatible.keeps
          simp only [mergedField_some keeps, mergedField_some keeps']
          exact congrArg some (ih _ inP compatible (ht.of_value.2.orNull name)
            (hp.2.of_field? ofP) (hq.2.of_field? ofQ))
    | _ => exact h.elim
  | _ => exact h.elim

/-- A patch merged twice is a patch merged once, and patches that overlap in fields
only where both carry objects commute, whatever the target: its values there may be
missing, or anything but objects. What is merged is again a value whose names are
in order. -/
theorem merging_settles_and_commutes (ht : Ordered target) (hp : Ordered p) (hq : Ordered q) :
    Ordered (target.mergePatch p)
      ∧ (target.mergePatch p).mergePatch p = target.mergePatch p
      ∧ (Compatible p q →
        (target.mergePatch p).mergePatch q = (target.mergePatch q).mergePatch p) :=
  ⟨ordered_mergePatch ht hp, mergePatch_mergePatch ht hp,
    fun compatible => mergePatch_comm compatible ht hp hq⟩

/-- A text stands where the patches below descend. -/
def unlabelled : Json :=
  object [
    ("metadata", some (object [("labels", some (.str "none")), ("name", some (.str "web"))])),
    ("status", some (.str "ready"))]

/-- A patch of labels, and of one other field. -/
def labelPatch (labels : List (String × Option Json)) (other : String × Option Json) : Json :=
  object [("metadata", some (object [("labels", some (object labels))])), other]

/-- Two patches that meet in the labels, of which there are none yet. -/
theorem label_patches_commute :
    let p := labelPatch [("tier", some .null), ("zone", some (.str "b"))] ("status", some .null)
    let q := labelPatch [("app", some (.str "web"))] ("spec", some (.int 2))
    (unlabelled.mergePatch p).mergePatch p = unlabelled.mergePatch p
      ∧ (unlabelled.mergePatch p).mergePatch q = (unlabelled.mergePatch q).mergePatch p
      ∧ (unlabelled.mergePatch p).mergePatch q = object [
        ("metadata", some (object [
          ("labels", some (object [("app", some (.str "web")), ("zone", some (.str "b"))])),
          ("name", some (.str "web"))])),
        ("spec", some (.int 2))] := by
  intro p q
  have laws := merging_settles_and_commutes (by decide : Ordered unlabelled)
    (by decide : Ordered p) (by decide : Ordered q)
  obtain ⟨-, settled, commute⟩ := laws
  exact ⟨settled, commute (by decide), by decide⟩

end SharedGateway.Json
