/-
Tables: finitely many entries, one per key, in ascending order of their keys.
The order is part of the type, so two tables with the same entries are equal
and every listing of a table comes out sorted.
-/

namespace SharedGateway

-- ================================================================= keys

/-- A strict total order on keys. -/
class KeyOrder (κ : Type) [LT κ] : Prop where
  irrefl (a : κ) : ¬ a < a
  trans {a b c : κ} : a < b → b < c → a < c
  connected (a b : κ) : a < b ∨ a = b ∨ b < a

instance : KeyOrder String where
  irrefl := String.lt_irrefl
  trans := String.lt_trans
  connected a b := by
    rcases Classical.em (a < b) with h | h
    · exact .inl h
    · rcases Classical.em (b < a) with h' | h'
      · exact .inr (.inr h')
      · exact .inr (.inl (String.le_antisymm h' h))

-- =============================================================== tables

/-- Entries in strictly ascending order of their keys. -/
structure Table (κ α : Type) [LT κ] where
  entries : List (κ × α)
  ascending : entries.Pairwise fun a b => a.1 < b.1

namespace Table

variable {κ α : Type} [LT κ]

theorem ext {a b : Table κ α} (h : a.entries = b.entries) : a = b := by
  cases a; cases b; cases h; rfl

instance [DecidableEq κ] [DecidableEq α] : DecidableEq (Table κ α) := fun a b =>
  decidable_of_iff (a.entries = b.entries) ⟨ext, fun h => h ▸ rfl⟩

/-- The table without entries. -/
def empty : Table κ α := ⟨[], .nil⟩

instance : Inhabited (Table κ α) := ⟨empty⟩

/-- The keys in ascending order. -/
def keys (t : Table κ α) : List κ :=
  t.entries.map (·.1)

/-- The values in ascending order of their keys. -/
def values (t : Table κ α) : List α :=
  t.entries.map (·.2)

/-- Has the table no entry? -/
def isEmpty (t : Table κ α) : Bool :=
  t.entries.isEmpty

/-- The value of the first entry with that key. -/
def valueAt? [DecidableEq κ] (key : κ) : List (κ × α) → Option α
  | [] => none
  | (k, v) :: rest => if k = key then some v else valueAt? key rest

/-- The value under the key. -/
def find? [DecidableEq κ] (t : Table κ α) (key : κ) : Option α :=
  valueAt? key t.entries

/-- Is there an entry under the key? -/
def contains [DecidableEq κ] (t : Table κ α) (key : κ) : Bool :=
  (t.find? key).isSome

-- ============================================================= erasing

/-- The table without the entry under the key. -/
def erase [DecidableEq κ] (t : Table κ α) (key : κ) : Table κ α :=
  ⟨t.entries.filter fun entry => entry.1 ≠ key, t.ascending.filter _⟩

-- ============================================================ inserting

/-- The entry put into a sorted list, over the entry of the same key. -/
def insertEntry [DecidableEq κ] [DecidableLT κ] (key : κ) (value : α) :
    List (κ × α) → List (κ × α)
  | [] => [(key, value)]
  | (k, v) :: rest =>
    if key < k then (key, value) :: (k, v) :: rest
    else if k = key then (key, value) :: rest
    else (k, v) :: insertEntry key value rest

variable [DecidableEq κ] [DecidableLT κ]

/-- An inserted list holds the new entry and no key but its own and the old
ones. -/
theorem key_of_mem_insertEntry {key : κ} {value : α} {l : List (κ × α)} {e : κ × α}
    (h : e ∈ insertEntry key value l) : e.1 = key ∨ e ∈ l := by
  induction l with
  | nil => simp_all [insertEntry]
  | cons entry rest ih =>
    obtain ⟨k, v⟩ := entry
    simp only [insertEntry] at h
    split at h
    · rcases List.mem_cons.1 h with rfl | h
      · exact .inl rfl
      · exact .inr h
    · split at h
      · rcases List.mem_cons.1 h with rfl | h
        · exact .inl rfl
        · exact .inr (List.mem_cons_of_mem _ h)
      · rcases List.mem_cons.1 h with rfl | h
        · exact .inr List.mem_cons_self
        · exact (ih h).imp_right (List.mem_cons_of_mem _)

theorem pairwise_insertEntry [KeyOrder κ] {key : κ} {value : α} {l : List (κ × α)}
    (h : l.Pairwise fun a b => a.1 < b.1) :
    (insertEntry key value l).Pairwise fun a b => a.1 < b.1 := by
  induction l with
  | nil => simp [insertEntry]
  | cons entry rest ih =>
    obtain ⟨k, v⟩ := entry
    obtain ⟨head, tail⟩ := List.pairwise_cons.1 h
    simp only [insertEntry]
    split
    · rename_i before
      refine List.pairwise_cons.2 ⟨fun e he => ?_, h⟩
      rcases List.mem_cons.1 he with rfl | he
      · exact before
      · exact KeyOrder.trans before (head e he)
    · rename_i notBefore
      split
      · rename_i same
        subst same
        exact List.pairwise_cons.2 ⟨head, tail⟩
      · rename_i other
        refine List.pairwise_cons.2 ⟨fun e he => ?_, ih tail⟩
        rcases key_of_mem_insertEntry he with same | he
        · rcases KeyOrder.connected k key with after | same' | before
          · exact same ▸ after
          · exact absurd same' other
          · exact absurd before notBefore
        · exact head e he

/-- The table with the value under the key, over an older one. -/
def insert [KeyOrder κ] (t : Table κ α) (key : κ) (value : α) : Table κ α :=
  ⟨insertEntry key value t.entries, pairwise_insertEntry t.ascending⟩

/-- The table of the entries; of two with one key the later stays. -/
def ofList [KeyOrder κ] (entries : List (κ × α)) : Table κ α :=
  entries.foldl (fun t entry => t.insert entry.1 entry.2) empty

-- ========================================================== looking up

theorem valueAt?_insertEntry (key other : κ) (value : α) (l : List (κ × α)) :
    valueAt? other (insertEntry key value l)
      = if key = other then some value else valueAt? other l := by
  induction l with
  | nil => rfl
  | cons entry rest ih =>
    obtain ⟨k, v⟩ := entry
    simp only [insertEntry]
    split
    · rfl
    · split
      · rename_i same
        subst same
        by_cases h : k = other <;> simp [valueAt?, h]
      · rename_i differ
        by_cases h : k = other
        · subst h
          simp [valueAt?, Ne.symm differ]
        · simp [valueAt?, h, ih]

/-- The inserted value is found under its key, and nothing else changes. -/
theorem find?_insert [KeyOrder κ] (t : Table κ α) (key other : κ) (value : α) :
    (t.insert key value).find? other = if key = other then some value else t.find? other :=
  valueAt?_insertEntry key other value t.entries

omit [LT κ] [DecidableLT κ] in
theorem valueAt?_filter_ne (key other : κ) (l : List (κ × α)) :
    valueAt? other (l.filter fun entry => entry.1 ≠ key)
      = if key = other then none else valueAt? other l := by
  induction l with
  | nil => simp [valueAt?]
  | cons entry rest ih =>
    obtain ⟨k, v⟩ := entry
    by_cases hk : k = key
    · subst hk
      by_cases h : k = other <;> simp_all [valueAt?]
    · by_cases h : k = other
      · subst h
        simp [valueAt?, hk, Ne.symm hk]
      · simp_all [valueAt?]

omit [DecidableLT κ] in
/-- Nothing is found under an erased key, and nothing else changes. -/
theorem find?_erase (t : Table κ α) (key other : κ) :
    (t.erase key).find? other = if key = other then none else t.find? other :=
  valueAt?_filter_ne key other t.entries

end Table

end SharedGateway
