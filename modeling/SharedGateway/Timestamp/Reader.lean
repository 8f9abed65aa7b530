/-
Reading a timestamp. The text gives a date, a time of day and the offset of the
clock that showed it; the result is in UTC and a fraction of a second is
dropped. Reading is lenient where the written form is strict: blanks may stand
before each number and each mark, a number may leave out its leading zeros, and
a space may stand for the `T`.
-/
import SharedGateway.Text.Blank
import SharedGateway.Timestamp.Basic

namespace SharedGateway.Timestamp

-- ================================================================ parts

/-- What is left to read after a part has been read. -/
abbrev Part (α : Type) := List Char → Option (α × List Char)

/-- Between one and `width` digits. -/
def digits (width : Nat) : Part Nat := fun cs =>
  let run := (cs.take width).takeWhile Char.isDigit
  if run.isEmpty then none else some (Nat.ofDigitChars 10 run 0, cs.drop run.length)

/-- A number of at most two digits after blanks. -/
def number : Part Nat := fun cs =>
  digits 2 (Text.dropBlanks cs)

/-- A year after blanks: four digits at most, or a sign and any number of
digits. -/
def year : Part Int := fun cs =>
  match Text.dropBlanks cs with
  | '-' :: rest => (digits rest.length rest).map fun part => (-(part.1 : Int), part.2)
  | '+' :: rest => (digits rest.length rest).map fun part => ((part.1 : Int), part.2)
  | rest => (digits 4 rest).map fun part => ((part.1 : Int), part.2)

/-- The rest after a mark, which blanks may precede. -/
def mark (c : Char) (cs : List Char) : Option (List Char) :=
  match Text.dropBlanks cs with
  | first :: rest => if first = c then some rest else none
  | [] => none

/-- The rest after the letter or space between date and time. -/
def separator : List Char → Option (List Char)
  | 'T' :: rest => some rest
  | 't' :: rest => some rest
  | ' ' :: rest => some rest
  | _ => none

/-- The rest after a fraction of a second, if there is one. -/
def fraction : List Char → Option (List Char)
  | '.' :: rest =>
    if (rest.takeWhile Char.isDigit).isEmpty then none else some (rest.dropWhile Char.isDigit)
  | rest => some rest

-- =============================================================== offset

/-- Exactly two digits. -/
def twoDigits : Part Nat
  | a :: b :: rest =>
    if a.isDigit && b.isDigit then some (Nat.ofDigitChars 10 [a, b] 0, rest) else none
  | _ => none

/-- The minutes of an offset after its sign: two digits of hours, colons or
blanks, two digits of minutes. -/
def offsetSize : Part Nat := fun cs => do
  let (hours, rest) ← twoDigits cs
  let (minutes, rest) ← twoDigits (rest.dropWhile fun c => c = ':' || Text.isBlank c)
  if minutes < 60 then some (hours * 60 + minutes, rest) else none

/-- The offset from UTC in minutes: a letter for none, or a sign and a size. -/
def offset : Part Int
  | 'Z' :: rest => some (0, rest)
  | 'z' :: rest => some (0, rest)
  | '+' :: rest => (offsetSize rest).map fun part => ((part.1 : Int), part.2)
  | '-' :: rest => (offsetSize rest).map fun part => (-(part.1 : Int), part.2)
  | '\u2212' :: rest => (offsetSize rest).map fun part => (-(part.1 : Int), part.2)
  | a :: b :: c :: rest =>
    if [a, b, c].map Char.toUpper = ['U', 'T', 'C'] then some (0, rest) else none
  | _ => none

-- =========================================================== whole text

/-- The timestamp of the parts, if there are such a date, time and offset. -/
def ofParts? (year : Int) (month day hour minute second : Nat) (offset : Int) :
    Option Timestamp := do
  let date ← Date.ofParts? year month day
  if h : IsYear year ∧ hour ≤ 23 ∧ minute ≤ 59 ∧ second ≤ 60 ∧ -1440 < offset ∧ offset < 1440 then
    ofLocal? date hour minute second offset h.2.2.2.1
  else none

/-- The timestamp that a text gives. -/
def ofText? (text : String) : Option Timestamp := do
  let (year, rest) ← year text.toList
  let (month, rest) ← number (← mark '-' rest)
  let (day, rest) ← number (← mark '-' rest)
  let (hour, rest) ← number (← separator rest)
  let (minute, rest) ← number (← mark ':' rest)
  let (second, rest) ← number (← mark ':' rest)
  let (offset, rest) ← offset (Text.dropBlanks (← fraction rest))
  if (Text.dropBlanks rest).isEmpty then ofParts? year month day hour minute second offset
  else none

end SharedGateway.Timestamp
