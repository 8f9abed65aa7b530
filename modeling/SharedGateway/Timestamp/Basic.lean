/-
Points in time as they stand in an object's metadata: a date of the proleptic
Gregorian calendar and a time of day in UTC, to the second. Only existing dates
and times can be written down. The written form is the one every reader of the
API understands, `YYYY-MM-DDTHH:MM:SSZ`.
-/

namespace SharedGateway

-- ============================================================= calendar

/-- Has the year a 29 February? -/
def isLeapYear (year : Int) : Bool :=
  year % 4 = 0 && (year % 100 ≠ 0 || year % 400 = 0)

/-- The number of days in the month. -/
def daysInMonth (year : Int) (month : Nat) : Nat :=
  if month = 2 then (if isLeapYear year then 29 else 28)
  else if month = 4 || month = 6 || month = 9 || month = 11 then 30
  else 31

/-- Is there such a day? -/
def IsDay (year : Int) (month day : Nat) : Prop :=
  (1 ≤ month ∧ month ≤ 12) ∧ 1 ≤ day ∧ day ≤ daysInMonth year month

instance (year : Int) (month day : Nat) : Decidable (IsDay year month day) :=
  inferInstanceAs (Decidable (_ ∧ _))

theorem one_le_daysInMonth (year : Int) (month : Nat) : 1 ≤ daysInMonth year month := by
  unfold daysInMonth; split
  · split <;> decide
  · split <;> decide

/-- A day of the calendar. -/
structure Date where
  year : Int
  month : Nat
  day : Nat
  isDay : IsDay year month day
  deriving DecidableEq

namespace Date

/-- The day of those numbers, if there is one. -/
def ofParts? (year : Int) (month day : Nat) : Option Date :=
  if h : IsDay year month day then some ⟨year, month, day, h⟩ else none

/-- The following day. -/
def next (d : Date) : Date :=
  if h : d.day < daysInMonth d.year d.month then
    ⟨d.year, d.month, d.day + 1, d.isDay.1, Nat.le_add_left 1 d.day, h⟩
  else if h : d.month < 12 then
    ⟨d.year, d.month + 1, 1, ⟨Nat.le_add_left 1 d.month, h⟩, Nat.le_refl 1,
      one_le_daysInMonth _ _⟩
  else ⟨d.year + 1, 1, 1, by decide, Nat.le_refl 1, one_le_daysInMonth _ _⟩

/-- The day before. -/
def previous (d : Date) : Date :=
  if h : 1 < d.day then
    ⟨d.year, d.month, d.day - 1, d.isDay.1, by omega, by have := d.isDay.2.2; omega⟩
  else if h : 1 < d.month then
    ⟨d.year, d.month - 1, daysInMonth d.year (d.month - 1),
      by have := d.isDay.1; omega, one_le_daysInMonth _ _, Nat.le_refl _⟩
  else ⟨d.year - 1, 12, daysInMonth (d.year - 1) 12, by decide, one_le_daysInMonth _ _,
    Nat.le_refl _⟩

end Date

-- ================================================================= time

/-- The years that a timestamp can lie in. -/
def IsYear (year : Int) : Prop :=
  -262143 ≤ year ∧ year ≤ 262142

instance (year : Int) : Decidable (IsYear year) :=
  inferInstanceAs (Decidable (_ ∧ _))

/-- A second of a day in UTC. A second numbered 60 is a leap second. -/
structure Timestamp where
  date : Date
  hour : Nat
  minute : Nat
  second : Nat
  inDay : hour ≤ 23 ∧ minute ≤ 59 ∧ second ≤ 60
  isYear : IsYear date.year
  deriving DecidableEq

namespace Timestamp

/-- The timestamp of a local time whose clock is `offset` minutes ahead of UTC,
if there is one. The offset is shorter than a day, so the date moves by one day
at most. -/
def ofLocal? (date : Date) (hour minute second : Nat) (offset : Int)
    (h : second ≤ 60) : Option Timestamp :=
  let minutes : Int := hour * 60 + minute - offset
  let day := if minutes < 0 then date.previous else if minutes < 1440 then date else date.next
  let inDay := (minutes % 1440).toNat
  if isYear : IsYear day.year then
    some ⟨day, inDay / 60 % 24, inDay % 60, second, ⟨by omega, by omega, h⟩, isYear⟩
  else none

-- ============================================================== writing

/-- The number with at least `width` digits. -/
def padded (width n : Nat) : String :=
  let digits := Nat.toDigits 10 n
  String.ofList (List.replicate (width - digits.length) '0' ++ digits)

/-- The year: four digits, or a sign and at least four digits outside the
years that four digits can tell. -/
def yearText (year : Int) : String :=
  if 0 ≤ year ∧ year ≤ 9999 then padded 4 year.toNat
  else if year < 0 then "-" ++ padded 4 year.natAbs
  else "+" ++ padded 4 year.natAbs

/-- The written form. -/
def toText (t : Timestamp) : String :=
  yearText t.date.year ++ "-" ++ padded 2 t.date.month ++ "-" ++ padded 2 t.date.day ++ "T"
    ++ padded 2 t.hour ++ ":" ++ padded 2 t.minute ++ ":" ++ padded 2 t.second ++ "Z"

end Timestamp

end SharedGateway
