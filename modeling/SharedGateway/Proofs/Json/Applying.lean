/-
The laws of applying.

# Applying settles

A value that was applied is settled: applied again, it changes nothing, and it never
changes itself (`applied_applied`, `applied_self`). Objects are gone through field by
field as in merging; a field that the target lacks is taken over whole, and is then
applied to itself the second time round, so the first law needs the second.

Both hold only if no list in the value names two items alike (`Unambiguous`), since
the later of the two would take the place of the earlier one each time. And both are
about values that count as equal (`Alike`): of two zeros in a list, the one applied
last takes the place of either, and it need not be written like the other.

# What becomes of a list

A list to which items are applied grows and loses nothing but what they replace
(`Upserts`): an item that no applied item stands for stays where it is, no name
becomes ambiguous that was not, and every applied item is there in full afterwards.
An applied item with a name replaces the first item of that name; of two items with
one name the second is left where it is, which the last theorem shows on a list of
ports.
-/
import SharedGateway.Proofs.Json.Upserting

namespace SharedGateway.Json

variable {target value v w x item : Json} {fields : Fields} {items added : List Json}

-- ======================================================= clear values

mutual

/-- The lists in a value, at every depth. -/
def lists : Json → List (List Json)
  | .arr items => items :: listsOfItems items
  | .obj fields => listsOfFields fields
  | .null | .bool _ | .int _ | .real _ | .str _ => []
termination_by structural v => v

/-- The lists in the items of a list. -/
def listsOfItems : List Json → List (List Json)
  | [] => []
  | v :: rest => lists v ++ listsOfItems rest
termination_by structural items => items

/-- The lists in the values of these fields. -/
def listsOfFields : Fields → List (List Json)
  | [] => []
  | (_, v) :: rest => lists v ++ listsOfFields rest
termination_by structural fields => fields

end

/-- No list in the value has two items of one name. -/
def Unambiguous (v : Json) : Prop :=
  ∀ items ∈ v.lists, DistinctNames items

instance (v : Json) : Decidable (Unambiguous v) :=
  inferInstanceAs (Decidable (∀ items ∈ v.lists, DistinctNames items))

theorem Unambiguous.distinctNames (h : Unambiguous (.arr items)) : DistinctNames items :=
  h items List.mem_cons_self

theorem listsOfFields_eq (fields : Fields) :
    listsOfFields fields = fields.flatMap fun field => field.2.lists := by
  induction fields with
  | nil => rfl
  | cons field rest ih => simp [listsOfFields, ih]

/-- The lists in a field are lists in the object. -/
theorem Unambiguous.of_field? {name : String} (h : Unambiguous (.obj fields))
    (found : field? name fields = some v) : Unambiguous v := by
  intro items member
  refine h items ?_
  rw [lists, listsOfFields_eq]
  exact List.mem_flatMap.2 ⟨_, mem_of_field? found, member⟩

-- ============================================================ the laws

/-- Lists are alike if their items are, one by one. -/
theorem alike_arr (same : items.map compared = added.map compared) :
    (Json.arr items).Alike (.arr added) := by
  show Json.arr (comparedItems items) = .arr (comparedItems added)
  rw [comparedItems_eq_map, comparedItems_eq_map, same]

/-- Applying leaves the names of every object in order. -/
theorem ordered_applied (ht : Ordered target) (hv : Ordered value) :
    Ordered (target.applied value) := by
  induction value using nested generalizing target with
  | obj fields ih =>
    cases target with
    | obj current =>
      refine .of_fields (ascending_appliedFields ht.1 fields) fun name v found => ?_
      rw [field?_appliedFields hv.1] at found
      cases stated : field? name fields with
      | none =>
        rw [stated] at found
        exact ht.2.of_field? found
      | some incoming =>
        have incoming_ordered := hv.2.of_field? stated
        cases before : field? name current with
        | none =>
          rw [stated, before] at found
          cases found
          -- taken over whole
          exact incoming_ordered
        | some old =>
          rw [stated, before] at found
          cases found
          exact ih _ (mem_of_field? stated) (ht.2.of_field? before) incoming_ordered
    | _ => exact hv
  | arr items =>
    cases target with
    | arr current =>
      refine orderedItems_iff.2 fun v member => ?_
      rcases mem_upsertAll member with applied | kept
      · exact orderedItems_iff.1 hv v applied
      · exact orderedItems_iff.1 ht v kept
    | _ => exact hv
  | _ => trivial

/-- A value changes nothing when it is applied to itself. -/
theorem applied_self (hv : Ordered value) (distinct : Unambiguous value) :
    (value.applied value).Alike value := by
  induction value using nested with
  | obj fields ih =>
    have isValue : IsObject (.obj fields) := ⟨rfl, hv.1⟩
    refine (isValue.applied isValue).alike isValue fun name => ?_
    rw [isValue.get?_applied isValue]
    cases stated : (Json.obj fields).get? name with
    | none => rfl
    | some v =>
      exact congrArg some
        (ih _ (mem_of_field? stated) (hv.2.of_field? stated) (distinct.of_field? stated))
  | arr items =>
    exact alike_arr (map_compared_upsertAll distinct.distinctNames
      fun x member => distinct.distinctNames.find? member)
  | _ => exact .refl _

/-- A value that was applied changes nothing when it is applied again. -/
theorem applied_applied (ht : Ordered target) (hv : Ordered value)
    (distinct : Unambiguous value) :
    ((target.applied value).applied value).Alike (target.applied value) := by
  induction value using nested generalizing target with
  | obj fields ih =>
    cases target with
    | obj current =>
      have isValue : IsObject (.obj fields) := ⟨rfl, hv.1⟩
      have isTarget : IsObject (.obj current) := ⟨rfl, ht.1⟩
      have isResult := isTarget.applied isValue
      refine (isResult.applied isValue).alike isResult fun name => ?_
      rw [isResult.get?_applied isValue, isTarget.get?_applied isValue]
      cases stated : (Json.obj fields).get? name with
      | none => rfl
      | some v =>
        cases before : (Json.obj current).get? name with
        | none =>
          -- the first time round the field was taken over whole
          exact congrArg some
            (applied_self (hv.2.of_field? stated) (distinct.of_field? stated))
        | some old =>
          exact congrArg some (ih _ (mem_of_field? stated) (ht.2.of_field? before)
            (hv.2.of_field? stated) (distinct.of_field? stated))
    | _ => exact applied_self hv distinct
  | arr items =>
    cases target with
    | arr current =>
      exact alike_arr (map_compared_upsertAll distinct.distinctNames
        fun x member => distinct.distinctNames.find?_upsertAll member current)
    | _ => exact applied_self hv distinct
  | _ => exact .refl _

-- =============================================================== lists

/-- Does the applied item replace the item at this place? With a name, it replaces
the first item of that name, and without one an item that is like it. -/
def Replaces (x : Json) (items : List Json) (i : Nat) (item : Json) : Prop :=
  if x.entryName?.isSome then items.findIdx? (·.entryName? = x.entryName?) = some i
  else item.Alike x

instance (x : Json) (items : List Json) (i : Nat) (item : Json) :
    Decidable (Replaces x items i item) :=
  inferInstanceAs (Decidable (ite ..))

/-- The first item of an entry is the one that an applied item of this entry replaces.
-/
theorem replaces_of_findIdx? {i : Nat} (there : items[i]? = some item)
    (first : items.findIdx? (·.entry = x.entry) = some i) : Replaces x items i item := by
  unfold Replaces
  cases named : x.entryName? with
  | some name =>
    rw [← named, if_pos (by simp [named]), ← first]
    congr 1
    funext other
    simp [entry_named_iff.2 named, entry_named_iff, named]
  | none =>
    have whole : x.entry = .whole x.compared := entry_whole_iff.2 ⟨named, rfl⟩
    obtain ⟨inside, same, -⟩ := List.findIdx?_eq_some_iff_getElem.1 first
    obtain ⟨_, rfl⟩ := List.getElem?_eq_some_iff.1 there
    rw [decide_eq_true_eq, whole] at same
    exact (entry_whole_iff.1 same).2

/-- What becomes of a list to which items are applied. -/
structure Upserts (items added result : List Json) : Prop where
  /-- The list never gets shorter. -/
  grows : items.length ≤ result.length
  /-- An item that no applied item replaces stays where it is. -/
  keeps : ∀ i item, items[i]? = some item → (∀ x ∈ added, ¬ Replaces x items i item) →
    result[i]? = some item
  /-- No name becomes ambiguous. -/
  names : DistinctNames items → DistinctNames result
  /-- Every applied item is there. -/
  present : ∀ x ∈ added, ∃ item ∈ result, item.Alike x

/-- Applied items of distinct names do to a list what `Upserts` promises. -/
theorem upserts_upsertAll (items : List Json) (h : DistinctNames added) :
    Upserts items added (upsertAll items added) where
  grows := by simpa using (entries_prefix_upsertAll items added).length_le
  keeps i item there spared := getElem?_upsertAll there fun x member first =>
    spared x member (replaces_of_findIdx? there first)
  names distinct := distinctNames_upsertAll distinct added
  present x member := by
    have stands := h.find?_upsertAll member items
    obtain ⟨item, found, alike⟩ := Option.map_eq_some_iff.1 stands
    exact ⟨item, List.mem_of_find?_eq_some found, alike⟩

/-- A value applied twice is a value applied once, and applied to itself it leaves
itself as it was, if no list in it has two items of one name. Applied to a list, a
list of such items keeps all it does not replace where it is, never makes a name
ambiguous, and is there in full afterwards. The result is again a value whose names
are in order. -/
theorem applying_settles_and_upserts (ht : Ordered target) (hv : Ordered value)
    (distinct : Unambiguous value) :
    Ordered (target.applied value)
      ∧ ((target.applied value).applied value).Alike (target.applied value)
      ∧ (value.applied value).Alike value
      ∧ ∀ items added, target = .arr items → value = .arr added →
        ∃ result, target.applied value = .arr result ∧ Upserts items added result := by
  refine ⟨ordered_applied ht hv, applied_applied ht hv distinct, applied_self hv distinct, ?_⟩
  rintro items added rfl rfl
  exact ⟨upsertAll items added, rfl, upserts_upsertAll items distinct.distinctNames⟩

/-- A listener as an applied list names it. -/
def portEntry (name : String) (port : Int) : Json :=
  object [("name", some (.str name)), ("port", some (.int port))]

/-- One name comes twice in the first list, and a zero in both, with another sign. -/
theorem applied_ports_keep_the_second_of_a_name :
    let items := [portEntry "a" 443, .real ⟨false, .zero⟩, portEntry "a" 80, portEntry "b" 443]
    let added := [portEntry "c" 8443, .real ⟨true, .zero⟩, portEntry "a" 8443]
    let result := [portEntry "a" 8443, .real ⟨true, .zero⟩, portEntry "a" 80, portEntry "b" 443,
      portEntry "c" 8443]
    (Json.arr items).applied (.arr added) = .arr result
      ∧ ((Json.arr result).applied (.arr added)).Alike (.arr result)
      ∧ result[2]? = some (portEntry "a" 80)
      ∧ ∃ item ∈ result, item.Alike (.real ⟨true, .zero⟩) := by
  intro items added result
  have evaluated : (Json.arr items).applied (.arr added) = .arr result := by decide
  obtain ⟨-, settled, -, lists⟩ := applying_settles_and_upserts
    (by decide : Ordered (.arr items)) (by decide : Ordered (.arr added))
    (by decide : Unambiguous (.arr added))
  obtain ⟨result', same, upserts⟩ := lists items added rfl rfl
  rw [evaluated] at settled same
  cases same
  exact ⟨rfl, settled, upserts.keeps 2 _ rfl (by decide),
    upserts.present _ (List.mem_cons_of_mem _ List.mem_cons_self)⟩

end SharedGateway.Json
