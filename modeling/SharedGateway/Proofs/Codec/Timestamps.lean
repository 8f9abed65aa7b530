/-
A timestamp is read back from its written form (`ofText?_toText`).

The reader takes the text apart piece by piece, and each piece of the written form
ends where the reader stops. A number that is padded to two digits is as long as the
reader's limit of two, so the reader stops there whatever follows (`number_padded`).
A year has no such limit when it carries a sign: it may be of any length, and ends
because the mark after it is no digit (`digits_signed`). A year without a sign is
written with four digits exactly, and no digit is taken for a sign (`year_plain`). No
piece begins with a blank, so the reader skips none.

What is read is then a date, a time of day and the offset zero, which moves nothing
(`ofParts?_self`). Up to the seconds this is the same for every written time
(`ofText?_clock`); what may follow is a fraction of a second, which is read over, and
the mark of the offset. So a time that is written with a fraction is read as the time
without it (`ofText?_fraction`), and that is all that the first reading of a document
can lose.
-/
import SharedGateway.Proofs.Json.Reading
import SharedGateway.Timestamp.Json

namespace SharedGateway.Timestamp

open Text (dropBlanks dropBlanks_cons isBlank isBlank_of_isDigit)

-- =============================================================== digits

/-- The characters of a padded number: zeros, then its digits. -/
theorem toList_padded (width n : Nat) : (padded width n).toList
    = List.replicate (width - (Nat.toDigits 10 n).length) '0' ++ Nat.toDigits 10 n := by
  simp [padded]

/-- A padded number consists of digits. -/
theorem isDigit_of_mem_padded {width n : Nat} {c : Char}
    (member : c ∈ (padded width n).toList) : c.isDigit = true := by
  rw [toList_padded, List.mem_append, List.mem_replicate] at member
  obtain ⟨-, rfl⟩ | digit := member
  · rfl
  · exact Nat.isDigit_of_mem_toDigits (by decide) (by decide) digit

/-- A padded number begins with a digit, also when it is zero. -/
theorem padded_eq_cons (width n : Nat) :
    ∃ first others, (padded width n).toList = first :: others ∧ first.isDigit = true := by
  cases shape : (padded width n).toList with
  | nil => simp [toList_padded, Nat.toDigits_ne_nil] at shape
  | cons first others =>
    exact ⟨first, others, rfl, isDigit_of_mem_padded (shape ▸ List.mem_cons_self)⟩

theorem ofDigitChars_padded (width n : Nat) :
    Nat.ofDigitChars 10 (padded width n).toList 0 = n := by
  rw [toList_padded, Nat.ofDigitChars_append, Nat.ofDigitChars_replicate_zero, Nat.mul_zero,
    Nat.ofDigitChars_ten_toDigits]

theorem length_padded {width n : Nat} (fits : (Nat.toDigits 10 n).length ≤ width) :
    (padded width n).toList.length = width := by
  rw [toList_padded, List.length_append, List.length_replicate]
  omega

/-- No blank stands before the digits of a padded number. -/
theorem dropBlanks_padded (width n : Nat) (rest : List Char) :
    dropBlanks ((padded width n).toList ++ rest) = (padded width n).toList ++ rest := by
  obtain ⟨first, others, shape, digit⟩ := padded_eq_cons width n
  rw [shape]
  exact dropBlanks_cons (isBlank_of_isDigit digit)

/-- A padded number is read up to its end if the reader may go no further, or
finds no digit there. -/
theorem digits_padded {limit width n : Nat} {rest : List Char}
    (fits : (padded width n).toList.length ≤ limit)
    (ends : (padded width n).toList.length = limit
      ∨ ∃ c others, rest = c :: others ∧ c.isDigit = false) :
    digits limit ((padded width n).toList ++ rest) = some (n, rest) := by
  have nothing : (rest.take (limit - (padded width n).toList.length)).takeWhile Char.isDigit
      = [] := by
    obtain full | ⟨c, others, rfl, stop⟩ := ends
    · rw [full, Nat.sub_self, List.take_zero, List.takeWhile_nil]
    · cases limit - (padded width n).toList.length with
      | zero => rfl
      | succ room => rw [List.take_succ_cons, List.takeWhile_cons_of_neg (by simp [stop])]
  have run : (((padded width n).toList ++ rest).take limit).takeWhile Char.isDigit
      = (padded width n).toList := by
    rw [List.take_append, List.take_of_length_le fits,
      List.takeWhile_append_of_pos fun c member => isDigit_of_mem_padded member, nothing,
      List.append_nil]
  obtain ⟨first, others, shape, -⟩ := padded_eq_cons width n
  unfold digits
  simp only [run, ofDigitChars_padded, List.drop_left]
  rw [shape]
  rfl

/-- A number of two digits is read up to its end, whatever follows: the reader may go no
further. -/
theorem number_padded {n : Nat} (fits : n < 100) (rest : List Char) :
    number ((padded 2 n).toList ++ rest) = some (n, rest) := by
  have length : (padded 2 n).toList.length = 2 :=
    length_padded ((Nat.length_toDigits_le_iff (by decide) (by decide)).2 fits)
  rw [number, dropBlanks_padded]
  exact digits_padded (Nat.le_of_eq length) (.inl length)

-- =============================================================== pieces

theorem mark_cons {c : Char} (visible : isBlank c = false) (rest : List Char) :
    mark c (c :: rest) = some rest := by
  rw [mark, dropBlanks_cons visible]
  exact if_pos rfl

/-- A signed year has as many digits as there are before the next mark. -/
theorem digits_signed (n : Nat) (rest : List Char) :
    digits ((padded 4 n).toList ++ '-' :: rest).length ((padded 4 n).toList ++ '-' :: rest)
      = some (n, '-' :: rest) := by
  refine digits_padded ?_ (.inr ⟨'-', rest, rfl, by decide⟩)
  rw [List.length_append]
  exact Nat.le_add_right _ _

/-- A year before zero is read back from its sign and its digits. -/
theorem year_minus (n : Nat) (rest : List Char) :
    year ('-' :: ((padded 4 n).toList ++ '-' :: rest)) = some (-(n : Int), '-' :: rest) := by
  rw [year, dropBlanks_cons (by decide)]
  exact congrArg (Option.map _) (digits_signed n rest)

/-- A year beyond four digits is read back from its sign and its digits. -/
theorem year_plus (n : Nat) (rest : List Char) :
    year ('+' :: ((padded 4 n).toList ++ '-' :: rest)) = some ((n : Int), '-' :: rest) := by
  rw [year, dropBlanks_cons (by decide)]
  exact congrArg (Option.map _) (digits_signed n rest)

/-- A year of four digits is taken for no other, since no digit is a sign. -/
theorem year_plain {n : Nat} (fits : n < 10000) (rest : List Char) :
    year ((padded 4 n).toList ++ rest) = some ((n : Int), rest) := by
  have length : (padded 4 n).toList.length = 4 :=
    length_padded ((Nat.length_toDigits_le_iff (by decide) (by decide)).2 fits)
  have read : digits 4 ((padded 4 n).toList ++ rest) = some (n, rest) :=
    digits_padded (Nat.le_of_eq length) (.inl length)
  obtain ⟨first, others, shape, digit⟩ := padded_eq_cons 4 n
  have unsigned : first ≠ '-' ∧ first ≠ '+' :=
    ⟨fun sign => absurd (sign ▸ digit) (by decide), fun sign => absurd (sign ▸ digit) (by decide)⟩
  rw [year, dropBlanks_padded]
  split
  · rename_i minus
    rw [shape] at minus
    exact absurd (List.cons.inj minus).1 unsigned.1
  · rename_i plus
    rw [shape] at plus
    exact absurd (List.cons.inj plus).1 unsigned.2
  · rw [read, Option.map_some]

/-- Every year is read back from its written form, up to the mark after it. -/
theorem year_yearText (y : Int) (rest : List Char) :
    year ((yearText y).toList ++ '-' :: rest) = some (y, '-' :: rest) := by
  unfold yearText
  split
  · have value : (y.toNat : Int) = y := by omega
    rw [year_plain (by omega), value]
  · split
    · have value : -(y.natAbs : Int) = y := by omega
      rw [String.toList_append, show "-".toList = ['-'] from rfl, List.append_assoc,
        List.singleton_append, year_minus, value]
    · have value : (y.natAbs : Int) = y := by omega
      rw [String.toList_append, show "+".toList = ['+'] from rfl, List.append_assoc,
        List.singleton_append, year_plus, value]

/-- A time without an offset stays where it is. -/
theorem ofParts?_self (t : Timestamp) : ofParts? t.date.year t.date.month t.date.day
    t.hour t.minute t.second 0 = some t := by
  obtain ⟨date, hour, minute, second, ⟨hours, minutes, seconds⟩, isYear⟩ := t
  have clock : ¬ (hour * 60 + minute - 0 : Int) < 0 ∧ (hour * 60 + minute - 0 : Int) < 1440 := by
    omega
  have inDay : ((hour * 60 + minute - 0 : Int) % 1440).toNat = hour * 60 + minute := by omega
  have h : (hour * 60 + minute) / 60 % 24 = hour := by omega
  have m : (hour * 60 + minute) % 60 = minute := by omega
  have day : Date.ofParts? date.year date.month date.day = some date := dif_pos date.isDay
  unfold ofParts?
  dsimp only
  rw [day, Option.bind_eq_bind, Option.bind_some,
    dif_pos ⟨isYear, hours, minutes, seconds, by decide, by decide⟩]
  simp only [ofLocal?, clock, if_false, if_true, inDay, h, m, isYear, dif_pos]

/-- The written form up to the seconds. -/
def clock (t : Timestamp) : String :=
  yearText t.date.year ++ "-" ++ padded 2 t.date.month ++ "-" ++ padded 2 t.date.day ++ "T"
    ++ padded 2 t.hour ++ ":" ++ padded 2 t.minute ++ ":" ++ padded 2 t.second

/-- What comes after the seconds is a fraction, which is dropped, and an offset. -/
theorem ofText?_clock (t : Timestamp) {tail rest after : List Char}
    (dropped : fraction tail = some rest) (utc : offset (dropBlanks rest) = some (0, after))
    (ends : (dropBlanks after).isEmpty = true) :
    ofText? (t.clock ++ String.ofList tail) = some t := by
  obtain ⟨hours, minutes, seconds⟩ := t.inDay
  obtain ⟨⟨-, month⟩, -, day⟩ := t.date.isDay
  -- no month has more days than two digits hold
  have days : daysInMonth t.date.year t.date.month ≤ 31 := by
    unfold daysInMonth
    split
    · split <;> decide
    · split <;> decide
  have pieces : (t.clock ++ String.ofList tail).toList = (yearText t.date.year).toList ++ '-' ::
      ((padded 2 t.date.month).toList ++ '-' :: ((padded 2 t.date.day).toList ++ 'T' ::
      ((padded 2 t.hour).toList ++ ':' :: ((padded 2 t.minute).toList ++ ':' ::
      ((padded 2 t.second).toList ++ tail))))) := by
    simp [clock]
  -- one step of the reader for each piece of the text
  unfold ofText?
  rw [pieces]
  refine Option.bind_eq_some_iff.2 ⟨_, year_yearText _ _, ?_⟩
  refine Option.bind_eq_some_iff.2 ⟨_, mark_cons (by decide) _, ?_⟩
  refine Option.bind_eq_some_iff.2 ⟨_, number_padded (by omega) _, ?_⟩
  refine Option.bind_eq_some_iff.2 ⟨_, mark_cons (by decide) _, ?_⟩
  refine Option.bind_eq_some_iff.2 ⟨_, number_padded (by omega) _, ?_⟩
  refine Option.bind_eq_some_iff.2 ⟨_, rfl, ?_⟩
  refine Option.bind_eq_some_iff.2 ⟨_, number_padded (by omega) _, ?_⟩
  refine Option.bind_eq_some_iff.2 ⟨_, mark_cons (by decide) _, ?_⟩
  refine Option.bind_eq_some_iff.2 ⟨_, number_padded (by omega) _, ?_⟩
  refine Option.bind_eq_some_iff.2 ⟨_, mark_cons (by decide) _, ?_⟩
  refine Option.bind_eq_some_iff.2 ⟨_, number_padded (by omega) _, ?_⟩
  refine Option.bind_eq_some_iff.2 ⟨_, dropped, ?_⟩
  refine Option.bind_eq_some_iff.2 ⟨_, utc, ?_⟩
  dsimp only
  rw [if_pos ends]
  exact ofParts?_self t

/-- A timestamp is read back from its written form. -/
theorem ofText?_toText (t : Timestamp) : ofText? t.toText = some t :=
  ofText?_clock t (show fraction ['Z'] = some ['Z'] from rfl) rfl rfl

/-- A fraction of a second does not count. -/
theorem ofText?_fraction (t : Timestamp) {parts : List Char} (nonempty : parts ≠ [])
    (digits : ∀ c ∈ parts, c.isDigit = true) :
    ofText? (t.clock ++ String.ofList ('.' :: parts ++ ['Z'])) = some t := by
  have run : (parts ++ ['Z']).takeWhile Char.isDigit = parts := by
    rw [List.takeWhile_append_of_pos digits]
    simp
  have rest : (parts ++ ['Z']).dropWhile Char.isDigit = ['Z'] := by
    rw [List.dropWhile_append_of_pos digits]
    rfl
  have dropped : fraction ('.' :: (parts ++ ['Z'])) = some ['Z'] := by
    rw [fraction, run, rest]
    exact if_neg (mt List.isEmpty_iff.1 nonempty)
  exact ofText?_clock t dropped rfl rfl

theorem readsBack : Json.ReadsBack Timestamp.read? Timestamp.toJson where
  read_write t := by
    rw [toJson, Json.document, read?, Json.Document.text?, Option.bind_some, ofText?_toText]
  read_null := rfl

end SharedGateway.Timestamp
