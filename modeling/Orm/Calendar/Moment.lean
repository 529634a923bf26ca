/-!
# Dates and times of day

Dates of the proleptic Gregorian calendar and times of day with nanoseconds. A leap second is one
with at least a full second of nanoseconds; a time of day can have one at every second, but from its
parts only the one at second 59 is made. The bounds are part of the types, so a value of them is a
day or a moment that exists.
-/

namespace Orm

/-- Whether a year has a 29th of February. -/
def isLeapYear (year : Int) : Bool :=
  year % 4 = 0 && (year % 100 != 0 || year % 400 = 0)

/-- The number of days of a month. -/
def daysInMonth (year : Int) (month : Nat) : Nat :=
  if month = 2 then (if isLeapYear year then 29 else 28)
  else if month = 4 ∨ month = 6 ∨ month = 9 ∨ month = 11 then 30
  else 31

/-- The years a date can have. -/
abbrev YearInRange (year : Int) : Prop := -262143 ≤ year ∧ year ≤ 262142

/-- The days that exist. -/
abbrev Date.Exists (year : Int) (month day : Nat) : Prop :=
  YearInRange year ∧ 1 ≤ month ∧ month ≤ 12 ∧ 1 ≤ day ∧ day ≤ daysInMonth year month

/-- A day of the calendar. -/
structure Date where
  year : Int
  month : Nat
  day : Nat
  exists_day : Date.Exists year month day
deriving DecidableEq

/-- The date with the given parts, if there is such a day. -/
def Date.ofParts? (year : Int) (month day : Nat) : Option Date :=
  if h : Date.Exists year month day then some ⟨year, month, day, h⟩ else none

/-- The first day of 1970. -/
def Date.epoch : Date := ⟨1970, 1, 1, by decide⟩

/-- The times of day that exist; every second can be a leap second. -/
abbrev TimeOfDay.Exists (hour minute second nanos : Nat) : Prop :=
  hour < 24 ∧ minute < 60 ∧ second < 60 ∧ nanos < 2000000000

/-- A time of day. -/
structure TimeOfDay where
  hour : Nat
  minute : Nat
  second : Nat
  nanos : Nat
  exists_time : TimeOfDay.Exists hour minute second nanos
deriving DecidableEq

/-- The time of day with the given parts, if there is one; of the leap seconds only that at second
59 can be given so. -/
def TimeOfDay.ofParts? (hour minute second nanos : Nat) : Option TimeOfDay :=
  if h : TimeOfDay.Exists hour minute second nanos ∧ (nanos < 1000000000 ∨ second = 59) then
    some ⟨hour, minute, second, nanos, h.1⟩
  else none

/-- The beginning of a day. -/
def TimeOfDay.midnight : TimeOfDay := ⟨0, 0, 0, 0, by decide⟩

/-- The second as a clock shows it: a leap second is the next one, so that at second 59 is the
second 60. -/
def TimeOfDay.shownSecond (time : TimeOfDay) : Nat :=
  if time.nanos < 1000000000 then time.second else time.second + 1

/-- A day and a time of day. -/
structure DateTime where
  date : Date
  time : TimeOfDay
deriving DecidableEq

/-- The first moment of 1970. -/
def DateTime.epoch : DateTime := ⟨.epoch, .midnight⟩

end Orm
