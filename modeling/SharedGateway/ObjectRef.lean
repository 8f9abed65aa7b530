/-
References: the namespace and the name that identify an object of one kind. A
reference is written `namespace/name` and read back at the first slash, so a
name may hold slashes and a namespace may not.
-/
import SharedGateway.Table
import SharedGateway.Text.Quoted

namespace SharedGateway

/-- The identity of an object within its kind. -/
structure ObjectRef where
  ns : String
  name : String
  deriving DecidableEq, Repr, Inhabited

namespace ObjectRef

-- ================================================================ order

/-- References are ordered by namespace and then by name. -/
instance : LT ObjectRef where
  lt a b := a.ns < b.ns ∨ (a.ns = b.ns ∧ a.name < b.name)

theorem lt_iff {a b : ObjectRef} : a < b ↔ a.ns < b.ns ∨ (a.ns = b.ns ∧ a.name < b.name) :=
  Iff.rfl

instance : DecidableLT ObjectRef := fun _ _ => decidable_of_iff _ lt_iff.symm

instance : KeyOrder ObjectRef where
  irrefl a h := by
    rcases lt_iff.1 h with h | ⟨-, h⟩
    · exact KeyOrder.irrefl _ h
    · exact KeyOrder.irrefl _ h
  trans {a b c} hab hbc := by
    rcases lt_iff.1 hab with h | ⟨h, h'⟩ <;> rcases lt_iff.1 hbc with g | ⟨g, g'⟩
    · exact lt_iff.2 (.inl (KeyOrder.trans h g))
    · exact lt_iff.2 (.inl (g ▸ h))
    · exact lt_iff.2 (.inl (h ▸ g))
    · exact lt_iff.2 (.inr ⟨h.trans g, KeyOrder.trans h' g'⟩)
  connected a b := by
    rcases KeyOrder.connected a.ns b.ns with h | h | h
    · exact .inl (lt_iff.2 (.inl h))
    · rcases KeyOrder.connected a.name b.name with h' | h' | h'
      · exact .inl (lt_iff.2 (.inr ⟨h, h'⟩))
      · exact .inr (.inl (by cases a; cases b; simp_all))
      · exact .inr (.inr (lt_iff.2 (.inr ⟨h.symm, h'⟩)))
    · exact .inr (.inr (lt_iff.2 (.inl h)))

/-- The references in ascending order. -/
def sorted (refs : List ObjectRef) : List ObjectRef :=
  refs.mergeSort fun a b => !decide (b < a)

-- ================================================================= text

/-- The written form `namespace/name`. -/
def toText (r : ObjectRef) : String :=
  r.ns ++ "/" ++ r.name

/-- Why a text is no reference: it has no slash, or nothing on one side of its
first one. -/
structure Malformed where
  text : String
  deriving DecidableEq, Repr

/-- The message about a malformed reference to a gateway. -/
def Malformed.message (e : Malformed) : String :=
  "Invalid gateway reference " ++ Text.quoted e.text ++ ", expected namespace/name"

/-- The characters before the first slash and those after it. -/
def splitAtSlash : List Char → Option (List Char × List Char)
  | [] => none
  | c :: rest =>
    if c = '/' then some ([], rest)
    else (splitAtSlash rest).map fun parts => (c :: parts.1, parts.2)

/-- Reads a written reference; neither part may be empty. -/
def ofText (text : String) : Except Malformed ObjectRef :=
  match splitAtSlash text.toList with
  | some (ns, name) =>
    if ns.isEmpty || name.isEmpty then .error ⟨text⟩
    else .ok ⟨String.ofList ns, String.ofList name⟩
  | none => .error ⟨text⟩

/-- The reference that a text writes, if it writes one. -/
def ofText? (text : String) : Option ObjectRef :=
  (ofText text).toOption

end ObjectRef

end SharedGateway
