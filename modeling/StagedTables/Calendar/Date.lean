/-! # Dates

Dates of the proleptic Gregorian calendar from year 1 to year 9999, and their numbering by days
from the first one on. -/
set_option autoImplicit false
namespace StagedTables.Calendar

def IsLeap (year : Nat) : Prop := year % 4 = 0 ∧ (year % 100 ≠ 0 ∨ year % 400 = 0)

instance (year : Nat) : Decidable (IsLeap year) :=
  inferInstanceAs (Decidable (_ ∧ _))

def monthLengths (year : Nat) : List Nat :=
  [31, if IsLeap year then 29 else 28, 31, 30, 31, 30, 31, 31, 30, 31, 30, 31]

def daysInMonth (year month : Nat) : Nat := (monthLengths year).getD (month - 1) 0

def firstYear : Nat := 1
def lastYear : Nat := 9999

def IsDate (year month day : Nat) : Prop :=
  (firstYear ≤ year ∧ year ≤ lastYear) ∧ (1 ≤ month ∧ month ≤ 12) ∧
    (1 ≤ day ∧ day ≤ daysInMonth year month)

instance (year month day : Nat) : Decidable (IsDate year month day) :=
  inferInstanceAs (Decidable (_ ∧ _ ∧ _))

structure Date where
  year : Nat
  month : Nat
  day : Nat
  isDate : IsDate year month day
  deriving DecidableEq, Repr

def daysBeforeYear (year : Nat) : Nat :=
  let past := year - 1
  past * 365 + past / 4 - past / 100 + past / 400

def daysBeforeMonth (year month : Nat) : Nat :=
  ((monthLengths year).take (month - 1)).foldr (· + ·) 0

/-- The number of days from the first of January of year 1. -/
def Date.dayNumber (date : Date) : Nat :=
  daysBeforeYear date.year + daysBeforeMonth date.year date.month + (date.day - 1)

def daysPer400Years : Nat := 146097
def daysPer100Years : Nat := 36524
def daysPer4Years : Nat := 1461

/-- The year in which a day falls, and the number of days of that year before it. -/
def yearOfDay (day : Nat) : Nat × Nat :=
  let inCycle := day % daysPer400Years
  let centuries := min (inCycle / daysPer100Years) 3
  let inCentury := inCycle - centuries * daysPer100Years
  let inFour := inCentury % daysPer4Years
  let years := min (inFour / 365) 3
  (400 * (day / daysPer400Years) + 100 * centuries + 4 * (inCentury / daysPer4Years) + years + 1,
    inFour - years * 365)

/-- The year in which a day falls, counted on beyond both ends of the calendar, which repeats itself
every 400 years. -/
def signedYearOfDay (day : Int) : Int :=
  (yearOfDay (day.fmod daysPer400Years).toNat).1 + 400 * day.fdiv daysPer400Years

/-- The month in which a day of the year falls, and its day of the month, where `month` is the
number of the first of the given lengths. -/
def monthOfDay (month : Nat) : List Nat → Nat → Nat × Nat
  | [], day => (month, day + 1)
  | length :: lengths, day =>
    if day < length then (month, day + 1) else monthOfDay (month + 1) lengths (day - length)

def Date.ofDayNumber? (number : Nat) : Option Date :=
  let (year, dayOfYear) := yearOfDay number
  let (month, day) := monthOfDay 1 (monthLengths year) dayOfYear
  if isDate : IsDate year month day then some ⟨year, month, day, isDate⟩ else none

end StagedTables.Calendar
