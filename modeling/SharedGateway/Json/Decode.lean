/-
Reading typed data out of JSON documents. A reader answers `none` for a
document of the wrong shape.

There are two ways to read an object. A record knows its members in an order:
none of them may stand twice, and a list may hold their values in that order
instead of an object. A lenient reader takes objects only, but there a member
may stand any number of times; every occurrence must be readable, and the last
one counts. Both pass over members that they do not know, whatever these hold.

On a document that comes from a value the two agree, since there no name
stands twice (`occurrences_members`).
-/
import SharedGateway.Json.Document
import SharedGateway.Table

namespace SharedGateway.Json.Document

variable {α : Type}

-- =============================================================== values

/-- A text. -/
def text? : Document → Option String
  | .str s => some s
  | _ => none

/-- A truth value. -/
def bool? : Document → Option Bool
  | .bool b => some b
  | _ => none

/-- An integer within the two bounds. -/
def integerIn? (least greatest : Int) : Document → Option Int
  | .int n => if least ≤ n ∧ n ≤ greatest then some n else none
  | _ => none

/-- A signed 32-bit integer. -/
def int32? (d : Document) : Option Int32 :=
  (d.integerIn? Int32.minValue.toInt Int32.maxValue.toInt).map Int32.ofInt

/-- A signed 64-bit integer. -/
def int64? (d : Document) : Option Int64 :=
  (d.integerIn? Int64.minValue.toInt Int64.maxValue.toInt).map Int64.ofInt

/-- A natural number below the bound. -/
def natBelow? (bound : Nat) : Document → Option Nat
  | .int n => if 0 ≤ n ∧ n < bound then some n.toNat else none
  | _ => none

/-- A list whose every item can be read. -/
def list? (read : Document → Option α) : Document → Option (List α)
  | .list items => items.mapM read
  | _ => none

/-- An object whose every value is a text. Of two under one name the later
stays. -/
def textTable? : Document → Option (Table String String)
  | .object members =>
    let entry? (member : String × Document) := member.2.text?.map fun text => (member.1, text)
    (members.mapM entry?).map Table.ofList
  | _ => none

/-- One of a fixed set of texts, written as the text itself or as an object
that has it as its only member, with nothing in it. -/
def choice? (choices : List (String × α)) : Document → Option α
  | .str s => choices.lookup s
  | .object [(s, .null)] => choices.lookup s
  | _ => none

/-- A value or `null`, which is none. -/
def nullable? (read : Document → Option α) : Document → Option (Option α)
  | .null => some none
  | d => (read d).map some

-- ============================================================== members

/-- The members of an object, whatever they are. -/
def members? : Document → Option Members
  | .object members => some members
  | _ => none

/-- The values under a name, in the order of the text. -/
def occurrences (members : Members) (name : String) : List Document :=
  members.filterMap fun member => if member.1 = name then some member.2 else none

/-- The members of a record: those of an object in which no known name stands
twice, or the items of a list in the order of the names. -/
def record? (names : List String) : Document → Option Members
  | .object members =>
    if names.all fun name => (occurrences members name).length ≤ 1 then some members else none
  | .list items => if items.length ≤ names.length then some (names.zip items) else none
  | _ => none

/-- A member that must be there. -/
def required? (members : Members) (name : String) (read : Document → Option α) : Option α :=
  (members.lookup name).bind read

/-- A member that may be missing or `null`. -/
def optional? (members : Members) (name : String) (read : Document → Option α) :
    Option (Option α) :=
  match members.lookup name with
  | none => some none
  | some d => nullable? read d

/-- A member that has a default when it is missing, but must not be `null`. -/
def defaulted? (members : Members) (name : String) (default : α) (read : Document → Option α) :
    Option α :=
  match members.lookup name with
  | none => some default
  | some d => read d

/-- A lenient reader's member: it may be missing, `null`, or there several
times. -/
def latest? (members : Members) (name : String) (read : Document → Option α) :
    Option (Option α) :=
  ((occurrences members name).mapM (nullable? read)).map fun found => found.getLast?.join

/-- A lenient reader's member that has a default when it is missing or `null`. -/
def latestOr? (members : Members) (name : String) (default : α) (read : Document → Option α) :
    Option α :=
  (latest? members name read).map fun found => found.getD default

-- =================================================== documents of values

/-- In the document of a value a name stands once or not at all. -/
theorem occurrences_members {fields : Fields} (h : Ascending fields) (name : String) :
    occurrences (members fields) name = ((field? name fields).map document).toList := by
  induction fields with
  | nil => rfl
  | cons field rest ih =>
    obtain ⟨n, v⟩ := field
    obtain ⟨head, tail⟩ := List.pairwise_cons.1 h
    by_cases same : n = name
    · subst same
      have none_left : field? n rest = none := by
        cases found : field? n rest with
        | none => rfl
        | some w =>
          have : (n, w) ∈ rest := mem_of_field? found
          exact absurd (head _ this) (String.lt_irrefl n)
      simpa [occurrences, members, field?, none_left] using ih tail
    · simpa [occurrences, members, field?, same] using ih tail

/-- A value's object is always a record. -/
theorem record?_members {fields : Fields} (h : Ascending fields) (names : List String) :
    record? names (.object (members fields)) = some (members fields) := by
  have once : ∀ name, (occurrences (members fields) name).length ≤ 1 := fun name => by
    rw [occurrences_members h]
    cases field? name fields <;> simp
  simp [record?, once]

/-- In the document of a value the lenient reader finds what the strict one
finds. -/
theorem latest?_members {fields : Fields} (h : Ascending fields) (name : String)
    (read : Document → Option α) :
    latest? (members fields) name read = optional? (members fields) name read := by
  simp only [latest?, optional?, occurrences_members h, lookup_members]
  cases field? name fields with
  | none => rfl
  | some v => cases found : nullable? read (document v) <;> simp [found]

end SharedGateway.Json.Document
