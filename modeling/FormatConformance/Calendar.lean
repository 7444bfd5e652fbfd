/-!
# The calendar

Dates of the Gregorian calendar, extended to all years, and days counted from 1 January 1970. For
the conversion a year begins in March, so that the day of a leap year comes last, and years are
taken four hundred at a time.
-/

namespace FormatConformance.Calendar

/-- A date. -/
structure Date where
  year : Int
  month : Nat
  day : Nat
  deriving DecidableEq, Repr

/-- Whether a year has a 29 February. -/
def isLeap (year : Int) : Bool :=
  year % 4 = 0 && (year % 100 ≠ 0 || year % 400 = 0)

/-- The number of days of a month. -/
def monthLength (year : Int) (month : Nat) : Nat :=
  match month with
  | 2 => if isLeap year then 29 else 28
  | 4 | 6 | 9 | 11 => 30
  | _ => 31

/-- The dates that there are. -/
def Date.Valid (d : Date) : Prop :=
  1 ≤ d.month ∧ d.month ≤ 12 ∧ 1 ≤ d.day ∧ d.day ≤ monthLength d.year d.month

/-- The date of the day after. -/
def Date.next (d : Date) : Date :=
  if d.day < monthLength d.year d.month then { d with day := d.day + 1 }
  else if d.month < 12 then ⟨d.year, d.month + 1, 1⟩
  else ⟨d.year + 1, 1, 1⟩

/-- The days of four hundred years. -/
def daysPerEra : Nat := 146097

/-- The days from 1 March of the year zero to 1 January 1970. -/
def daysToEpoch : Nat := 719468

/-- The year of a day of an era, both counted from zero. -/
def yearOfEra (day : Nat) : Nat :=
  (day - day / 1460 + day / 36524 - day / 146096) / 365

/-- The first day of a year of an era. -/
def firstDay (year : Nat) : Nat :=
  365 * year + year / 4 - year / 100

/-- The month of a day of a year, March being zero. -/
def monthOfYear (day : Nat) : Nat :=
  (5 * day + 2) / 153

/-- The first day of a month of a year that begins in March. -/
def firstDayOfMonth (month : Nat) : Nat :=
  (153 * month + 2) / 5

/-- The date a number of days after 1 January 1970. -/
def ofDays (days : Int) : Date :=
  let shifted := days + daysToEpoch
  let era := shifted / daysPerEra
  let dayOfEra := (shifted % daysPerEra).toNat
  let yearOfEra := yearOfEra dayOfEra
  let dayOfYear := dayOfEra - firstDay yearOfEra
  let march := monthOfYear dayOfYear
  let day := dayOfYear - firstDayOfMonth march + 1
  let month := if march < 10 then march + 3 else march - 9
  ⟨yearOfEra + era * 400 + (if month ≤ 2 then 1 else 0), month, day⟩

/-- The number of days from 1 January 1970 to a date. -/
def toDays (d : Date) : Int :=
  let year := if d.month ≤ 2 then d.year - 1 else d.year
  let era := year / 400
  let yearOfEra := (year % 400).toNat
  let march := (d.month + 9) % 12
  let dayOfEra := firstDay yearOfEra + firstDayOfMonth march + (d.day - 1)
  era * daysPerEra + dayOfEra - daysToEpoch

end FormatConformance.Calendar
