/-
The theory of tables.

# A table is the function that looks its keys up

The entries of a table ascend by their keys, so a key comes up once and an entry that
is in the list is the one that looking up its key finds (`valueAt?_of_mem`). With
this every question about the entries becomes one about `find?`: which entries there
are (`find?_eq_some_iff`), which values (`mem_values`), which keys (`mem_keys`). Two
ascending lists with the same members are the same list (`eq_of_mem_iff`), so tables
that answer every lookup alike are equal (`ext_find?`). That is how the rest of the
development shows two tables equal; no proof elsewhere compares lists of entries.

# Tables built from lists

A reader builds a table anew by inserting what it meets, one entry after another. An
entry that comes after all others is appended, so a table is the table of its own
entries (`ofList_entries`), and a table that was written out is read as itself. For
any list, in any order and with any repetition, the keys of its table are the keys of
the list (`mem_keys_ofList`).
-/
import SharedGateway.Table

namespace SharedGateway.Table

variable {κ α : Type} [LT κ] [DecidableEq κ]

-- =========================================================== looking up

omit [LT κ] in
/-- What looking up a key finds is an entry of the list, with that key. -/
theorem mem_of_valueAt? {key : κ} {value : α} {l : List (κ × α)}
    (h : valueAt? key l = some value) : (key, value) ∈ l := by
  induction l with
  | nil => cases h
  | cons entry rest ih =>
    obtain ⟨k, v⟩ := entry
    simp only [valueAt?] at h
    split at h
    · rename_i same
      cases h
      exact same ▸ List.mem_cons_self
    · exact List.mem_cons_of_mem _ (ih h)

/-- In an ascending list every entry is the one that looking up its key finds:
a later one of the same key would be greater than itself. -/
theorem valueAt?_of_mem [KeyOrder κ] {key : κ} {value : α} {l : List (κ × α)}
    (ascending : l.Pairwise fun a b => a.1 < b.1) (h : (key, value) ∈ l) :
    valueAt? key l = some value := by
  induction l with
  | nil => cases h
  | cons entry rest ih =>
    obtain ⟨k, v⟩ := entry
    obtain ⟨head, tail⟩ := List.pairwise_cons.1 ascending
    rcases List.mem_cons.1 h with same | later
    · cases same
      simp [valueAt?]
    · have differ : k ≠ key := by
        rintro rfl
        exact KeyOrder.irrefl k (head _ later)
      simp only [valueAt?, if_neg differ]
      exact ih tail later

/-- A table finds exactly its own entries. -/
theorem find?_eq_some_iff [KeyOrder κ] {t : Table κ α} {key : κ} {value : α} :
    t.find? key = some value ↔ (key, value) ∈ t.entries :=
  ⟨mem_of_valueAt?, valueAt?_of_mem t.ascending⟩

/-- The values of a table are what its keys find. -/
theorem mem_values [KeyOrder κ] {t : Table κ α} {value : α} :
    value ∈ t.values ↔ ∃ key, t.find? key = some value := by
  simp only [values, List.mem_map, Prod.exists, exists_eq_right, find?_eq_some_iff]

theorem mem_keys [KeyOrder κ] {t : Table κ α} {key : κ} :
    key ∈ t.keys ↔ ∃ value, t.find? key = some value := by
  simp only [keys, List.mem_map, Prod.exists, exists_and_right, exists_eq_right,
    find?_eq_some_iff]

omit [DecidableEq κ] in
theorem nodup_keys [KeyOrder κ] (t : Table κ α) : t.keys.Nodup := by
  refine List.pairwise_map.2 (t.ascending.imp ?_)
  intro a b before same
  exact KeyOrder.irrefl b.1 (same ▸ before)

-- ======================================================== extensionality

omit [DecidableEq κ] in
/-- Two ascending lists with the same members are equal: the first entry of
each is the least, so the two agree on it, and on the rest by induction. -/
theorem eq_of_mem_iff [KeyOrder κ] {a b : List (κ × α)}
    (ha : a.Pairwise fun x y => x.1 < y.1) (hb : b.Pairwise fun x y => x.1 < y.1)
    (h : ∀ e, e ∈ a ↔ e ∈ b) : a = b := by
  induction a generalizing b with
  | nil =>
    cases b with
    | nil => rfl
    | cons y ys => exact absurd ((h y).2 List.mem_cons_self) List.not_mem_nil
  | cons x xs ih =>
    cases b with
    | nil => exact absurd ((h x).1 List.mem_cons_self) List.not_mem_nil
    | cons y ys =>
      obtain ⟨xFirst, xsAscending⟩ := List.pairwise_cons.1 ha
      obtain ⟨yFirst, ysAscending⟩ := List.pairwise_cons.1 hb
      -- each of the two first entries is in the other list, and not behind its first
      have same : x = y := by
        rcases List.mem_cons.1 ((h x).1 List.mem_cons_self) with same | later
        · exact same
        rcases List.mem_cons.1 ((h y).2 List.mem_cons_self) with same | later'
        · exact same.symm
        exact absurd (KeyOrder.trans (xFirst y later') (yFirst x later))
          (KeyOrder.irrefl x.1)
      subst same
      have rest : ∀ e, e ∈ xs ↔ e ∈ ys := fun e => by
        -- past the first entry no entry is equal to it
        have past : ∀ l : List (κ × α), (∀ z ∈ l, x.1 < z.1) → e ∈ l → e ≠ x :=
          fun l first member equal => KeyOrder.irrefl x.1 (equal ▸ first e member)
        constructor
        · intro member
          exact ((List.mem_cons.1 ((h e).1 (List.mem_cons_of_mem _ member))).resolve_left
            (past xs xFirst member))
        · intro member
          exact ((List.mem_cons.1 ((h e).2 (List.mem_cons_of_mem _ member))).resolve_left
            (past ys yFirst member))
      rw [ih xsAscending ysAscending rest]

/-- Tables are equal if every key finds the same in both. -/
theorem ext_find? [KeyOrder κ] {a b : Table κ α} (h : ∀ key, a.find? key = b.find? key) :
    a = b := by
  refine ext (eq_of_mem_iff a.ascending b.ascending ?_)
  rintro ⟨key, value⟩
  rw [← find?_eq_some_iff, ← find?_eq_some_iff, h]

-- ===================================================== tables of lists

variable [DecidableLT κ]

/-- An entry that comes after all others is inserted at the end. -/
theorem insertEntry_of_after [KeyOrder κ] {key : κ} {value : α} {l : List (κ × α)}
    (h : ∀ e ∈ l, e.1 < key) : insertEntry key value l = l ++ [(key, value)] := by
  induction l with
  | nil => rfl
  | cons entry rest ih =>
    obtain ⟨k, v⟩ := entry
    have before : k < key := h (k, v) List.mem_cons_self
    have notAfter : ¬ key < k := fun after =>
      KeyOrder.irrefl k (KeyOrder.trans before after)
    have differ : k ≠ key := by
      rintro rfl
      exact KeyOrder.irrefl k before
    simp only [insertEntry, if_neg notAfter, if_neg differ, List.cons_append]
    rw [ih fun e member => h e (List.mem_cons_of_mem _ member)]

/-- Entries that ascend past those of a table are appended to it. -/
theorem entries_foldl_insert [KeyOrder κ] {l : List (κ × α)} {t : Table κ α}
    (ascending : (t.entries ++ l).Pairwise fun a b => a.1 < b.1) :
    (l.foldl (fun t entry => t.insert entry.1 entry.2) t).entries = t.entries ++ l := by
  induction l generalizing t with
  | nil => simp
  | cons entry rest ih =>
    have after : ∀ e ∈ t.entries, e.1 < entry.1 := fun e member =>
      (List.pairwise_append.1 ascending).2.2 e member entry List.mem_cons_self
    have inserted : (t.insert entry.1 entry.2).entries = t.entries ++ [entry] :=
      insertEntry_of_after after
    rw [List.foldl_cons, ih (by rw [inserted]; simpa using ascending), inserted]
    simp

/-- A table is built from its own entries by inserting them in turn. -/
theorem ofList_entries [KeyOrder κ] (t : Table κ α) : ofList t.entries = t :=
  ext (entries_foldl_insert (t := empty) t.ascending)

/-- An insertion adds its own key and keeps all others. -/
theorem mem_keys_insert [KeyOrder κ] {t : Table κ α} {key other : κ} {value : α} :
    other ∈ (t.insert key value).keys ↔ other = key ∨ other ∈ t.keys := by
  rw [mem_keys, mem_keys, find?_insert]
  by_cases same : key = other
  · simp [same]
  · simp [same, Ne.symm same]

/-- Insertions one after another add the keys that are inserted. -/
theorem mem_keys_foldl_insert [KeyOrder κ] {l : List (κ × α)} {t : Table κ α} {key : κ} :
    key ∈ (l.foldl (fun t entry => t.insert entry.1 entry.2) t).keys
      ↔ key ∈ t.keys ∨ key ∈ l.map (·.1) := by
  induction l generalizing t with
  | nil => simp
  | cons entry rest ih =>
    rw [List.foldl_cons, ih, mem_keys_insert, List.map_cons, List.mem_cons]
    constructor
    · rintro ((h | h) | h) <;> simp [h]
    · rintro (h | h | h) <;> simp [h]

/-- The table of a list has the keys of the list, whatever comes up twice in it. -/
theorem mem_keys_ofList [KeyOrder κ] {l : List (κ × α)} {key : κ} :
    key ∈ (ofList l).keys ↔ key ∈ l.map (·.1) := by
  rw [ofList, mem_keys_foldl_insert]
  simp [keys, empty]

end SharedGateway.Table
