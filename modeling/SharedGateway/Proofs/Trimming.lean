/-
What a setting's text says.

Trimming is told by its result: a text stands between blanks and has no blank at
either end (`Trims`), and there is one such text (`trims_iff`). It is empty exactly
where nothing but blanks was (`trim_eq_nil_iff`). The code drops blanks at the front,
turns the text round, drops blanks again and turns it back; dropping at the back
leaves the front as it is (`trims_trim`), and that is the one point where the two
ends meet.

A numeral is an optional plus sign and digits (`Numeral`). The reader accepts these
and nothing else (`numeral?_eq_some_iff`); a number beyond the bits of its type is a
numeral too, and it is the range check after the reader that refuses it. The decimal
form of a number is a numeral that trimming leaves alone (`Numeral.toString`,
`trims_toString`), so numbers may be written back as they are printed.
-/
import Mathlib.Data.List.TakeWhile
import SharedGateway.Text.Blank
import SharedGateway.Text.Decimal

namespace SharedGateway.Text

variable {cs digits text : List Char} {n : Nat}

-- =============================================================== blanks

/-- There is no blank at either end. -/
structure Tidy (text : List Char) : Prop where
  first : ∀ c, text.head? = some c → isBlank c = false
  last : ∀ c, text.getLast? = some c → isBlank c = false

/-- `text` is what blanks stand around in `cs`. -/
structure Trims (cs text : List Char) : Prop where
  around : ∃ before after, cs = before ++ text ++ after ∧ ∀ c ∈ before ++ after, isBlank c
  tidy : Tidy text

theorem Tidy.trims (tidy : Tidy text) : Trims text text :=
  ⟨⟨[], [], by simp, by simp⟩, tidy⟩

theorem Tidy.nil : Tidy [] :=
  ⟨by simp, by simp⟩

/-- A text without any blank has none at its ends. -/
theorem tidy_of_visible (visible : ∀ c ∈ text, isBlank c = false) : Tidy text where
  first c head := visible c (List.mem_of_mem_head? head)
  last c last := visible c (List.mem_of_getLast? last)

-- ============================================================= trimming

/-- Nothing is left of blanks, and something of any other text. -/
theorem dropBlanks_eq_nil_iff : dropBlanks cs = [] ↔ ∀ c ∈ cs, isBlank c := by
  simp [dropBlanks]

/-- Blanks in front are dropped. -/
theorem dropBlanks_append {before : List Char} (blank : ∀ c ∈ before, isBlank c)
    (rest : List Char) : dropBlanks (before ++ rest) = dropBlanks rest :=
  List.dropWhile_append_of_pos blank

/-- What is dropped is blank, and what is left does not begin so. -/
theorem dropBlanks_spec (cs : List Char) :
    ∃ before, cs = before ++ dropBlanks cs ∧ (∀ c ∈ before, isBlank c)
      ∧ ∀ c, (dropBlanks cs).head? = some c → isBlank c = false := by
  refine ⟨cs.takeWhile isBlank, List.takeWhile_append_dropWhile.symm,
    fun c => List.mem_takeWhile_imp, fun c head => ?_⟩
  have stop := List.head?_dropWhile_not isBlank cs
  rw [← dropBlanks, head] at stop
  simpa using stop

/-- Dropping the blanks in front and then those behind leaves the front alone. -/
theorem trims_trim (cs : List Char) : Trims cs (trim cs) := by
  obtain ⟨before, split, beforeBlank, first⟩ := dropBlanks_spec cs
  obtain ⟨after, splitRest, afterBlank, last⟩ := dropBlanks_spec (dropBlanks cs).reverse
  have rest : dropBlanks cs = trim cs ++ after.reverse := by
    have := congrArg List.reverse splitRest
    rwa [List.reverse_reverse, List.reverse_append] at this
  refine ⟨⟨before, after.reverse, ?_, ?_⟩, fun c head => ?_, fun c ends => ?_⟩
  · rw [List.append_assoc, ← rest, ← split]
  · simpa [or_imp, forall_and] using ⟨beforeBlank, afterBlank⟩
  · refine first c ?_
    rw [rest, List.head?_append, head, Option.some_or]
  · exact last c (by rwa [trim, List.getLast?_reverse] at ends)

/-- The blanks around a tidy text are what trimming drops. -/
theorem Trims.trim_eq (trims : Trims cs text) : trim cs = text := by
  obtain ⟨⟨before, after, rfl, blank⟩, tidy⟩ := trims
  simp only [List.mem_append, or_imp, forall_and] at blank
  obtain ⟨beforeBlank, afterBlank⟩ := blank
  rw [trim, List.append_assoc, dropBlanks_append beforeBlank]
  cases text with
  | nil =>
    rw [List.nil_append, dropBlanks_eq_nil_iff.mpr afterBlank]
    rfl
  | cons c others =>
    rw [List.cons_append, dropBlanks_cons (tidy.first c rfl), ← List.cons_append,
      List.reverse_append, dropBlanks_append (by simpa using afterBlank)]
    cases turned : (c :: others).reverse with
    | nil => simp at turned
    | cons d rest =>
      have last : (c :: others).getLast? = some d := by
        rw [← List.head?_reverse, turned, List.head?_cons]
      rw [dropBlanks_cons (tidy.last d last), ← turned, List.reverse_reverse]

/-- Trimming yields the one text that blanks stand around. -/
theorem trims_iff : Trims cs text ↔ trim cs = text :=
  ⟨Trims.trim_eq, fun trimmed => trimmed ▸ trims_trim cs⟩

/-- Trimming leaves nothing of blanks, and something of any other text. -/
theorem trim_eq_nil_iff : trim cs = [] ↔ ∀ c ∈ cs, isBlank c := by
  rw [← trims_iff]
  refine ⟨fun trims => ?_, fun blank => ⟨⟨cs, [], by simp, by simpa using blank⟩, .nil⟩⟩
  obtain ⟨before, after, rfl, blank⟩ := trims.around
  simpa using blank

-- ============================================================= numerals

/-- `cs` writes `n`: an optional plus sign, and ASCII digits of that value. -/
def Numeral (cs : List Char) (n : Nat) : Prop :=
  ∃ sign digits, cs = sign ++ digits ∧ (sign = [] ∨ sign = ['+']) ∧ digits ≠ []
    ∧ (∀ c ∈ digits, c.isDigit) ∧ Nat.ofDigitChars 10 digits 0 = n

/-- Digits are read with the value that they have in base ten; no digits are not read.
-/
theorem digitsValue?_eq_some_iff : digitsValue? digits = some n ↔
    digits ≠ [] ∧ (∀ c ∈ digits, c.isDigit) ∧ Nat.ofDigitChars 10 digits 0 = n := by
  unfold digitsValue?
  split_ifs with refused
  · simp only [Bool.or_eq_true, List.isEmpty_iff, Bool.not_eq_true', List.all_eq_false] at refused
    simp only [false_iff]
    rintro ⟨some, all, -⟩
    obtain none | ⟨c, member, other⟩ := refused
    · exact some none
    · exact other (all c member)
  · simp only [Bool.or_eq_true, List.isEmpty_iff, Bool.not_eq_true', not_or,
      Bool.not_eq_false, List.all_eq_true] at refused
    obtain ⟨some, all⟩ := refused
    simpa [some] using fun _ => all

/-- The reader accepts numerals, all of them, and tells their value. -/
theorem numeral?_eq_some_iff : numeral? cs = some n ↔ Numeral cs n := by
  unfold numeral?
  split
  · rename_i digits
    rw [digitsValue?_eq_some_iff]
    constructor
    · exact fun accepted => ⟨['+'], digits, rfl, .inr rfl, accepted⟩
    · rintro ⟨sign, others, split, rfl | rfl, some, all, value⟩
      · -- an unsigned text would begin with a digit
        rw [List.nil_append] at split
        have plus := all '+' (split ▸ List.mem_cons_self)
        simp at plus
      · obtain rfl : digits = others := by simpa using split
        exact ⟨some, all, value⟩
  · rename_i unsigned
    rw [digitsValue?_eq_some_iff]
    constructor
    · exact fun accepted => ⟨[], cs, rfl, .inl rfl, accepted⟩
    · rintro ⟨sign, others, rfl, rfl | rfl, accepted⟩
      · exact accepted
      · exact absurd rfl (unsigned others)

theorem isDigit_of_mem_toString {c : Char} (member : c ∈ (toString n).toList) :
    c.isDigit = true := by
  rw [Nat.toString_eq_repr, Nat.toList_repr] at member
  exact Nat.isDigit_of_mem_toDigits (by decide) (by decide) member

/-- The decimal form of a number is a numeral of it. -/
theorem Numeral.toString (n : Nat) : Numeral (toString n).toList n :=
  ⟨[], (ToString.toString n).toList, rfl, .inl rfl, by simp [Nat.toDigits_ne_nil],
    fun _ => isDigit_of_mem_toString, by simp⟩

/-- A printed number has no blanks around it. -/
theorem trims_toString (n : Nat) : Trims (toString n).toList (toString n).toList :=
  (tidy_of_visible fun _ member => isBlank_of_isDigit (isDigit_of_mem_toString member)).trims

end SharedGateway.Text
