/-
References and how they are written.

A reference is written as its namespace, a slash and its name, and read by splitting
the text at its first slash. So a reference can be told from its text as long as its
namespace holds none (`toText_inj`); a slash in the name does no harm. Objects of a
cluster have namespaces without slashes, and it is for these that the bookkeeping of
routes, which keeps gateways as texts, loses nothing.

What is read as a reference is written the same way again (`toText_of_ofText?`), and
what is written is read back if neither part is empty and the namespace is free of
slashes (`Plain`, `ofText?_toText`). These are all references that are ever read
(`ofText?_eq_some_iff`). So between references that are read, comparing the texts, as
an event does to find out whether a route has moved, is comparing the references
(`Plain.eq_toText_iff`).
-/
import SharedGateway.ObjectRef

namespace SharedGateway.ObjectRef

-- ============================================================= splitting

/-- A text is split at a slash that none stands before. -/
theorem splitAtSlash_append {ns : List Char} (slashFree : '/' ∉ ns)
    (name : List Char) : splitAtSlash (ns ++ '/' :: name) = some (ns, name) := by
  induction ns with
  | nil => rfl
  | cons c rest ih =>
    obtain ⟨differ, slashFree⟩ := not_or.1 (mt List.mem_cons.2 slashFree)
    rw [List.cons_append, splitAtSlash, if_neg (Ne.symm differ), ih slashFree]
    rfl

/-- The two parts and a slash between them make up the text. -/
theorem eq_append_of_splitAtSlash {chars ns name : List Char}
    (parts : splitAtSlash chars = some (ns, name)) : chars = ns ++ '/' :: name := by
  induction chars generalizing ns with
  | nil => cases parts
  | cons c rest ih =>
    simp only [splitAtSlash] at parts
    split at parts
    · rename_i slash
      cases parts
      rw [slash, List.nil_append]
    · obtain ⟨⟨ns', name'⟩, found, same⟩ := Option.map_eq_some_iff.1 parts
      cases same
      rw [ih found, List.cons_append]

/-- No slash stands before the first. -/
theorem slash_not_mem_of_splitAtSlash {chars ns name : List Char}
    (parts : splitAtSlash chars = some (ns, name)) : '/' ∉ ns := by
  induction chars generalizing ns with
  | nil => cases parts
  | cons c rest ih =>
    simp only [splitAtSlash] at parts
    split at parts
    · cases parts
      exact List.not_mem_nil
    · rename_i differ
      obtain ⟨⟨ns', name'⟩, found, same⟩ := Option.map_eq_some_iff.1 parts
      cases same
      exact fun member => (List.mem_cons.1 member).elim (Ne.symm differ) (ih found)

-- =============================================================== writing

theorem toList_toText (ref : ObjectRef) :
    ref.toText.toList = ref.ns.toList ++ '/' :: ref.name.toList := by
  simp [toText]

theorem toText_ne_empty (ref : ObjectRef) : ref.toText ≠ "" := by
  intro empty
  have chars := congrArg String.toList empty
  simp [toList_toText] at chars

/-- The namespace holds no slash. -/
def SlashFree (ref : ObjectRef) : Prop :=
  '/' ∉ ref.ns.toList

instance (ref : ObjectRef) : Decidable ref.SlashFree :=
  inferInstanceAs (Decidable ('/' ∉ ref.ns.toList))

/-- A written reference falls into its own two parts. -/
theorem SlashFree.splitAtSlash_toText {ref : ObjectRef} (slashFree : ref.SlashFree) :
    splitAtSlash ref.toText.toList = some (ref.ns.toList, ref.name.toList) := by
  rw [toList_toText, splitAtSlash_append slashFree]

/-- Different references are written differently, unless a namespace holds a slash. -/
theorem toText_inj {a b : ObjectRef} (ha : a.SlashFree) (hb : b.SlashFree) :
    a.toText = b.toText ↔ a = b := by
  refine ⟨fun same => ?_, congrArg toText⟩
  have parts := ha.splitAtSlash_toText.symm.trans (same ▸ hb.splitAtSlash_toText)
  simp only [Option.some.injEq, Prod.mk.injEq, String.toList_inj] at parts
  cases a
  cases b
  exact congr (congrArg mk parts.1) parts.2

-- =============================================================== reading

/-- A reference that is read back from how it is written. -/
structure Plain (ref : ObjectRef) : Prop where
  ns : ref.ns ≠ ""
  slashFree : '/' ∉ ref.ns.toList
  name : ref.name ≠ ""

/-- A plain reference is read back from how it is written. -/
theorem ofText?_toText {ref : ObjectRef} (plain : ref.Plain) :
    ofText? ref.toText = some ref := by
  have slashFree : ref.SlashFree := plain.slashFree
  have ns : ref.ns.toList.isEmpty = false := by simpa using plain.ns
  have name : ref.name.toList.isEmpty = false := by simpa using plain.name
  unfold ofText? ofText
  rw [slashFree.splitAtSlash_toText]
  simp [ns, name, Except.toOption]

/-- A text that is read as a reference has its two parts around the first slash, and
neither of them is empty. -/
theorem parts_of_ofText? {text : String} {ref : ObjectRef} (read : ofText? text = some ref) :
    splitAtSlash text.toList = some (ref.ns.toList, ref.name.toList)
      ∧ ref.ns ≠ "" ∧ ref.name ≠ "" := by
  unfold ofText? ofText at read
  cases parts : splitAtSlash text.toList with
  | none => simp [parts, Except.toOption] at read
  | some pair =>
    obtain ⟨ns, name⟩ := pair
    rw [parts] at read
    dsimp only at read
    split at read
    · simp [Except.toOption] at read
    · rename_i nonempty
      cases read
      simp only [Bool.or_eq_true, List.isEmpty_iff, not_or] at nonempty
      simpa using nonempty

/-- A text that is read as a reference is how the reference is written. -/
theorem toText_of_ofText? {text : String} {ref : ObjectRef} (read : ofText? text = some ref) :
    ref.toText = text := by
  obtain ⟨parts, -⟩ := parts_of_ofText? read
  have chars := eq_append_of_splitAtSlash parts
  exact String.toList_inj.1 ((toList_toText ref).trans chars.symm)

/-- The two readers differ in what they make of a failure only. -/
theorem ofText?_eq_some {text : String} {ref : ObjectRef} :
    ofText? text = some ref ↔ ofText text = .ok ref := by
  unfold ofText?
  cases ofText text <;> simp [Except.toOption]

/-- Only references that are read back are read at all. -/
theorem plain_of_ofText? {text : String} {ref : ObjectRef} (read : ofText? text = some ref) :
    ref.Plain := by
  obtain ⟨parts, ns, name⟩ := parts_of_ofText? read
  exact ⟨ns, slash_not_mem_of_splitAtSlash parts, name⟩

/-- A text is read as a reference exactly if it is the written form of one that is
read back. -/
theorem ofText?_eq_some_iff {text : String} {ref : ObjectRef} :
    ofText? text = some ref ↔ ref.Plain ∧ ref.toText = text := by
  constructor
  · exact fun read => ⟨plain_of_ofText? read, toText_of_ofText? read⟩
  · rintro ⟨plain, rfl⟩
    exact ofText?_toText plain

/-- Where both are read, comparing texts is comparing references. -/
theorem Plain.eq_toText_iff {text : String} {current ref : ObjectRef} (plain : current.Plain)
    (read : ofText? text = some ref) : text = current.toText ↔ ref = current := by
  have slashFree : ref.SlashFree := (plain_of_ofText? read).slashFree
  rw [← toText_of_ofText? read]
  exact toText_inj slashFree plain.slashFree

end SharedGateway.ObjectRef
