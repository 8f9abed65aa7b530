/-
Lists that items are applied to.

# Items stand for entries

Every item stands for an entry: that of its name or, if it has none, that of its
whole value (`entry`). Applying one item sets its entry and no other, as an update of
a map sets one key (`find?_upsert`): it replaces the first item of the entry where it
stands, or adds the entry at the end (`map_entry_upsert`), and all else stays in its
place (`getElem?_upsert`). Seen this way the two rules for items with and without a
name are one rule, and no proof below tells them apart again.

# One after the other

What one item does, applied items do in turn, each by induction on the applied list
from the lemma about one item. Names that are distinct stay so
(`distinctNames_upsertAll`). The first item of an entry is the last of the applied
ones that stand for it (`find?_upsertAll`), so if the applied names are distinct,
each applied item is found under its entry. The list is left as it was if each of
them stands for its entry there already (`map_compared_upsertAll`); that is the whole
of why applying settles.
-/
import Mathlib.Data.List.Nodup
import Mathlib.Data.List.Pairwise
import SharedGateway.Proofs.Json.Nested

namespace SharedGateway.Json

-- ============================================================== entries

/-- What an item of a list stands for. -/
inductive Entry where
  | named (name : Json)
  | whole (value : Json)
  deriving DecidableEq

/-- The name of an entry. -/
def Entry.name? : Entry → Option Json
  | .named name => some name
  | .whole _ => none

/-- The entry of an item: its name if it has one, else what it is compared as. -/
def entry (item : Json) : Entry :=
  match item.entryName? with
  | some name => .named name
  | none => .whole item.compared

variable {x y item : Json} {items added : List Json} {e : Entry}

/-- An item stands for a name if it has that name. -/
theorem entry_named_iff {name : Json} :
    item.entry = .named name ↔ item.entryName? = some name := by
  unfold entry
  cases item.entryName? <;> simp

theorem entry_whole_iff {value : Json} :
    item.entry = .whole value ↔ item.entryName? = none ∧ item.compared = value := by
  unfold entry
  cases item.entryName? <;> simp

/-- The name of an entry is the name of its items. -/
theorem name?_entry (item : Json) : item.entry.name? = item.entryName? := by
  unfold entry
  cases item.entryName? <;> rfl

/-- Items that are alike stand for one entry. -/
theorem Alike.entry (h : x.Alike y) : x.entry = y.entry := by
  have named (item : Json) : item.entryName? = item.compared.get? "name" :=
    (get?_compared item "name").symm
  unfold Json.entry
  rw [named x, named y, h]

/-- The search of the applied item finds the items of its entry. -/
theorem sameEntry_iff : sameEntry x item = true ↔ item.entry = x.entry := by
  unfold sameEntry
  cases named : x.entryName? with
  | some name => simp [entry_named_iff.2 named, entry_named_iff]
  | none =>
    have whole : x.entry = .whole x.compared := entry_whole_iff.2 ⟨named, rfl⟩
    simp only [decide_eq_true_eq]
    refine ⟨Alike.entry, fun same => ?_⟩
    exact (entry_whole_iff.1 (same.trans whole)).2

-- ========================================================= one item

/-- One item is applied at the first item of its entry, and further on if there is none
yet. -/
theorem upsert_cons (x item : Json) (rest : List Json) :
    upsert x (item :: rest)
      = if item.entry = x.entry then x :: rest else item :: upsert x rest := by
  simp only [upsert, sameEntry_iff]

/-- The first item of the entry is the applied one, and no other entry changes. -/
theorem find?_upsert (x : Json) (items : List Json) (e : Entry) :
    (upsert x items).find? (·.entry = e)
      = if x.entry = e then some x else items.find? (·.entry = e) := by
  induction items with
  | nil => by_cases same : x.entry = e <;> simp [upsert, same]
  | cons item rest ih =>
    rw [upsert_cons]
    by_cases replaced : item.entry = x.entry
    · by_cases same : x.entry = e <;> simp [replaced, same]
    · rw [if_neg replaced, List.find?_cons, ih, List.find?_cons]
      by_cases here : item.entry = e
      · have differ : x.entry ≠ e := fun same => replaced (here.trans same.symm)
        simp [here, differ]
      · simp [here]

/-- Entries stay where they are; a new one comes last. -/
theorem map_entry_upsert (x : Json) (items : List Json) :
    (upsert x items).map entry
      = if x.entry ∈ items.map entry then items.map entry
        else items.map entry ++ [x.entry] := by
  induction items with
  | nil => simp [upsert]
  | cons item rest ih =>
    rw [upsert_cons]
    by_cases replaced : item.entry = x.entry
    · simp [replaced]
    · rw [if_neg replaced, List.map_cons, ih]
      by_cases later : x.entry ∈ rest.map entry <;> simp [later, Ne.symm replaced]

/-- An item stays in its place, unless it is the first one of the entry. -/
theorem getElem?_upsert {i : Nat} (there : items[i]? = some item)
    (spared : items.findIdx? (·.entry = x.entry) ≠ some i) :
    (upsert x items)[i]? = some item := by
  induction items generalizing i with
  | nil => simp at there
  | cons first rest ih =>
    rw [upsert_cons]
    rw [List.findIdx?_cons] at spared
    by_cases replaced : first.entry = x.entry
    · cases i with
      | zero => simp [replaced] at spared
      | succ i => simpa [replaced] using there
    · cases i with
      | zero => simpa [replaced] using there
      | succ i =>
        simp only [replaced, if_false, List.getElem?_cons_succ] at there ⊢
        exact ih there (by simpa [replaced] using spared)

/-- Where the first item of its entry is like it already, an applied item changes
nothing. -/
theorem map_compared_upsert
    (stands : (items.find? (·.entry = x.entry)).map compared = some x.compared) :
    (upsert x items).map compared = items.map compared := by
  induction items with
  | nil => simp at stands
  | cons item rest ih =>
    rw [upsert_cons]
    by_cases replaced : item.entry = x.entry
    · have alike : item.compared = x.compared := by simpa [replaced] using stands
      simp [replaced, alike]
    · simpa [replaced] using ih (by simpa [replaced] using stands)

/-- An item of the result was there before, or is the applied one. -/
theorem mem_upsert (member : y ∈ upsert x items) : y = x ∨ y ∈ items := by
  induction items with
  | nil => simpa [upsert] using member
  | cons item rest ih =>
    rw [upsert_cons] at member
    split at member
    · rcases List.mem_cons.1 member with same | later
      · exact .inl same
      · exact .inr (List.mem_cons_of_mem _ later)
    · rcases List.mem_cons.1 member with same | later
      · exact .inr (same ▸ List.mem_cons_self)
      · exact (ih later).imp_right (List.mem_cons_of_mem _)

-- ======================================================= distinct names

/-- No two items have one name. -/
def DistinctNames (items : List Json) : Prop :=
  (items.filterMap entryName?).Nodup

instance (items : List Json) : Decidable (DistinctNames items) :=
  inferInstanceAs (Decidable (items.filterMap entryName?).Nodup)

/-- Then items of one entry are alike: they have no name, or are one item. -/
theorem DistinctNames.alike (h : DistinctNames items) (hx : x ∈ items) (hy : y ∈ items)
    (same : x.entry = y.entry) : x.Alike y := by
  have symm : Std.Symm fun x y : Json => x.entry = y.entry → x.Alike y :=
    ⟨fun _ _ alike same => (alike same.symm).symm⟩
  suffices pairwise : items.Pairwise fun x y => x.entry = y.entry → x.Alike y from
    pairwise.forall_of_forall (fun x _ _ => .refl x) hx hy same
  refine (List.pairwise_filterMap.1 h).imp fun {x y} differ same => ?_
  cases named : x.entryName? with
  | some name =>
    have named' : y.entryName? = some name :=
      entry_named_iff.1 (same.symm.trans (entry_named_iff.2 named))
    exact absurd rfl (differ name named name named')
  | none =>
    have whole : x.entry = .whole x.compared := entry_whole_iff.2 ⟨named, rfl⟩
    exact (entry_whole_iff.1 (same.symm.trans whole)).2.symm

/-- With distinct names the first item of an entry is like every other of it. -/
theorem DistinctNames.find? (h : DistinctNames items) (hx : x ∈ items) :
    (items.find? (·.entry = x.entry)).map compared = some x.compared := by
  cases found : items.find? (·.entry = x.entry) with
  | none => simpa using List.find?_eq_none.1 found x hx
  | some y =>
    have same : y.entry = x.entry := by simpa using List.find?_some found
    exact congrArg some (h.alike (List.mem_of_find?_eq_some found) hx same)

theorem DistinctNames.reverse (h : DistinctNames items) : DistinctNames items.reverse := by
  unfold DistinctNames
  rw [List.filterMap_reverse]
  exact List.nodup_reverse.2 h

theorem Entry.eq_named {name : Json} (h : e.name? = some name) : e = .named name := by
  cases e with
  | named other => exact congrArg Entry.named (Option.some.inj h)
  | whole value => cases h

/-- An applied item makes no name ambiguous: it takes the place of the one item of its
name, or its name is new. -/
theorem distinctNames_upsert (h : DistinctNames items) : DistinctNames (upsert x items) := by
  have names (items : List Json) :
      items.filterMap entryName? = (items.map entry).filterMap Entry.name? := by
    rw [List.filterMap_map]
    exact List.filterMap_congr fun item _ => (name?_entry item).symm
  unfold DistinctNames at h ⊢
  rw [names] at h ⊢
  rw [map_entry_upsert]
  split
  · exact h
  · rename_i fresh
    rw [List.filterMap_append, List.nodup_append]
    refine ⟨h, ?_, ?_⟩
    · cases named : x.entry.name? <;> simp [named]
    · intro name old name' new same
      obtain ⟨e, listed, named⟩ := List.mem_filterMap.1 old
      obtain ⟨e', only, named'⟩ := List.mem_filterMap.1 new
      cases List.mem_singleton.1 only
      subst same
      rw [Entry.eq_named named, ← Entry.eq_named named'] at listed
      exact fresh listed

-- ==================================================== items in turn

theorem upsertAll_cons (items : List Json) (x : Json) (rest : List Json) :
    upsertAll items (x :: rest) = upsertAll (upsert x items) rest := rfl

/-- Entries stay where they are. -/
theorem entries_prefix_upsertAll (items added : List Json) :
    items.map entry <+: (upsertAll items added).map entry := by
  induction added generalizing items with
  | nil => exact List.prefix_refl _
  | cons x rest ih =>
    refine List.IsPrefix.trans ?_ (ih (upsert x items))
    rw [map_entry_upsert]
    split
    · exact List.prefix_refl _
    · exact List.prefix_append _ _

/-- The first item of an entry is the last of the applied ones, if there is one. -/
theorem find?_upsertAll (items added : List Json) (e : Entry) :
    (upsertAll items added).find? (·.entry = e)
      = (added.reverse.find? (·.entry = e)).or (items.find? (·.entry = e)) := by
  induction added generalizing items with
  | nil => rfl
  | cons x rest ih =>
    rw [upsertAll_cons, ih, find?_upsert, List.reverse_cons, List.find?_append, Option.or_assoc]
    by_cases same : x.entry = e <;> simp [same]

/-- Applied items of distinct names all stand for their entries afterwards. -/
theorem DistinctNames.find?_upsertAll (h : DistinctNames added) (hx : x ∈ added)
    (items : List Json) :
    ((upsertAll items added).find? (·.entry = x.entry)).map compared = some x.compared := by
  have stands := h.reverse.find? (List.mem_reverse.2 hx)
  rw [Json.find?_upsertAll]
  cases found : added.reverse.find? (·.entry = x.entry) with
  | none => simp [found] at stands
  | some y => simpa [found] using stands

/-- Applied items that stand for their entries already change nothing. -/
theorem map_compared_upsertAll (h : DistinctNames added)
    (stand : ∀ x ∈ added,
      (items.find? (·.entry = x.entry)).map compared = some x.compared) :
    (upsertAll items added).map compared = items.map compared := by
  induction added generalizing items with
  | nil => rfl
  | cons x rest ih =>
    have first := map_compared_upsert (stand x List.mem_cons_self)
    have tail : DistinctNames rest := by
      unfold DistinctNames at h ⊢
      exact h.sublist (List.Sublist.filterMap _ (List.sublist_cons_self x rest))
    rw [upsertAll_cons, ← first]
    refine ih tail fun y later => ?_
    rw [find?_upsert]
    split
    · rename_i same
      have both := h.alike List.mem_cons_self (List.mem_cons_of_mem _ later) same
      exact congrArg some both
    · exact stand y (List.mem_cons_of_mem _ later)

/-- An item of the result was there before, or is an applied one. -/
theorem mem_upsertAll (member : y ∈ upsertAll items added) : y ∈ added ∨ y ∈ items := by
  induction added generalizing items with
  | nil => exact .inr member
  | cons x rest ih =>
    rcases ih member with later | kept
    · exact .inl (List.mem_cons_of_mem _ later)
    · rcases mem_upsert kept with same | kept
      · exact .inl (same ▸ List.mem_cons_self)
      · exact .inr kept

/-- Applied items make no name ambiguous, whatever names they have among themselves. -/
theorem distinctNames_upsertAll (h : DistinctNames items) (added : List Json) :
    DistinctNames (upsertAll items added) := by
  induction added generalizing items with
  | nil => exact h
  | cons x rest ih => exact ih (distinctNames_upsert h)

/-- Where the first item of an entry is found, it was before: one that is new to
the list lies beyond the items there were. -/
theorem findIdx?_upsert {i : Nat} (old : i < items.length)
    (found : (upsert x items).findIdx? (·.entry = e) = some i) :
    items.findIdx? (·.entry = e) = some i := by
  have entries (items : List Json) :
      items.findIdx? (·.entry = e) = (items.map entry).findIdx? (· = e) := by
    rw [List.findIdx?_map]
    rfl
  rw [entries, map_entry_upsert] at found
  rw [entries]
  split at found
  · exact found
  · rw [List.findIdx?_append] at found
    cases before : (items.map entry).findIdx? (· = e) with
    | some j => simpa [before] using found
    | none =>
      rw [before, Option.none_or, Option.map_eq_some_iff] at found
      obtain ⟨j, -, beyond⟩ := found
      rw [List.length_map] at beyond
      omega

/-- An item stays in its place, unless it is the first one of an applied entry. -/
theorem getElem?_upsertAll {i : Nat} (there : items[i]? = some item)
    (spared : ∀ x ∈ added, items.findIdx? (·.entry = x.entry) ≠ some i) :
    (upsertAll items added)[i]? = some item := by
  induction added generalizing items with
  | nil => exact there
  | cons x rest ih =>
    obtain ⟨old, -⟩ := List.getElem?_eq_some_iff.1 there
    refine ih (getElem?_upsert there (spared x List.mem_cons_self)) fun y later found => ?_
    exact spared y (List.mem_cons_of_mem _ later) (findIdx?_upsert old found)

end SharedGateway.Json
