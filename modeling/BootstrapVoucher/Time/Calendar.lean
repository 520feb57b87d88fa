/-!
# The proleptic Gregorian calendar

Days are counted from 1970-01-01, which is day 0. A date is turned into its day number by the
closed formula for the first day of its year, and a day number into its date by looking for the
year whose first day is the last one not after it.
-/

namespace BootstrapVoucher.Time

/-- Whether a year has a 29th of February. -/
def isLeapYear (year : Int) : Bool :=
  year % 4 == 0 && (year % 100 != 0 || year % 400 == 0)

def yearStart (year : Int) : Int :=
  365 * year + (year - 1) / 4 - (year - 1) / 100 + (year - 1) / 400 - 719527

/-- The lengths of the months of a year, in days. -/
def monthLengths (leap : Bool) : List Nat :=
  [31, if leap then 29 else 28, 31, 30, 31, 30, 31, 31, 30, 31, 30, 31]

/-- The number of days in a month; months are counted from 1. -/
def daysInMonth (year : Int) (month : Nat) : Nat :=
  if month = 0 then 0 else (monthLengths (isLeapYear year))[month - 1]?.getD 0

/-- A day of the calendar; months and days of the month are counted from 1. -/
structure Date where
  year : Int
  month : Nat
  day : Nat
deriving DecidableEq, Repr

namespace Date

def exists? (d : Date) : Bool :=
  1 ≤ d.day && d.day ≤ daysInMonth d.year d.month

/-- The number of days of the year that lie before a month. -/
def daysBefore (year : Int) (month : Nat) : Nat :=
  ((monthLengths (isLeapYear year)).take (month - 1)).foldl (· + ·) 0

/-- The number of days from 1970-01-01 to this date. -/
def toDays (d : Date) : Int :=
  yearStart d.year + daysBefore d.year d.month + (d.day - 1)

/-- The year that holds a day number. The mean length of a year gives a first guess that is never
too early and at most two years too late. -/
def yearOfDays (days : Int) : Int :=
  let guess := (400 * days) / 146097 + 1971
  if yearStart guess ≤ days then guess
  else if yearStart (guess - 1) ≤ days then guess - 1
  else guess - 2

/-- Splits a day of the year, counted from 0, into month and day of the month, given the lengths of
the months from `month` on. -/
def monthAndDay : (month : Nat) → (lengths : List Nat) → (dayOfYear : Nat) → Nat × Nat
  | month, [], rest => (month, rest + 1)
  | month, length :: lengths, rest =>
    if rest < length then (month, rest + 1) else monthAndDay (month + 1) lengths (rest - length)

def ofDays (days : Int) : Date :=
  let year := yearOfDays days
  let (month, day) := monthAndDay 1 (monthLengths (isLeapYear year)) (days - yearStart year).toNat
  ⟨year, month, day⟩

end Date

theorem yearStart_succ (year : Int) :
    yearStart (year + 1) = yearStart year + (if isLeapYear year then 366 else 365) := by
  unfold yearStart isLeapYear
  split <;> simp_all <;> omega

/-- The first day of a year is within a year of where years of mean length would put it. -/
theorem yearStart_near_mean (year : Int) :
    146097 * (year - 1970) - 1000 ≤ 400 * yearStart year ∧
      400 * yearStart year ≤ 146097 * (year - 1970) + 1000 := by
  unfold yearStart
  constructor <;> omega

theorem yearStart_yearOfDays (days : Int) :
    yearStart (Date.yearOfDays days) ≤ days ∧ days < yearStart (Date.yearOfDays days + 1) := by
  unfold Date.yearOfDays
  generalize h : (400 * days) / 146097 + 1971 = guess
  have high := yearStart_near_mean (guess + 1)
  have low := yearStart_near_mean (guess - 2)
  simp only []
  split
  · omega
  · split
    · rw [show guess - 1 + 1 = guess by omega]; omega
    · rw [show guess - 2 + 1 = guess - 1 by omega]; omega

end BootstrapVoucher.Time
