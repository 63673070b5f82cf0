/-!
# The proleptic Gregorian calendar

Days are numbered from the first of March of year 0, so that the leap day is the last day of a
year counted in March.  `Date.dayNumber` and `Date.ofDayNumber` go between dates and numbers; both
are closed formulas over the cycle of 400 years, which has 146097 days.
-/

namespace GrapheneSigner

/-- A calendar date. -/
structure Date where
  year : Nat
  month : Nat
  day : Nat
  deriving DecidableEq

namespace Date

/-- Every fourth year is a leap year, of the full centuries only every fourth. -/
def isLeap (year : Nat) : Bool := year % 4 == 0 && (year % 100 != 0 || year % 400 == 0)

def daysInMonth (year month : Nat) : Nat :=
  if month = 2 then (if isLeap year then 29 else 28)
  else if month = 4 ∨ month = 6 ∨ month = 9 ∨ month = 11 then 30
  else 31

/-- A date that exists, from year 1 on. -/
def Exists (d : Date) : Prop :=
  1 ≤ d.year ∧ 1 ≤ d.month ∧ d.month ≤ 12 ∧ 1 ≤ d.day ∧ d.day ≤ daysInMonth d.year d.month

instance (d : Date) : Decidable d.Exists := by unfold Exists; infer_instance

/-- The number of a day, counted from the first of March of year 0. -/
def dayNumber (d : Date) : Nat :=
  let year := if d.month ≤ 2 then d.year - 1 else d.year
  let month := (d.month + 9) % 12
  year / 400 * 146097
    + (365 * (year % 400) + year % 400 / 4 - year % 400 / 100)
    + (153 * month + 2) / 5 + (d.day - 1)

def ofDayNumber (n : Nat) : Date :=
  let cycle := n / 146097
  let dayOfCycle := n % 146097
  let yearOfCycle :=
    (dayOfCycle - dayOfCycle / 1460 + dayOfCycle / 36524 - dayOfCycle / 146096) / 365
  let dayOfYear := dayOfCycle - (365 * yearOfCycle + yearOfCycle / 4 - yearOfCycle / 100)
  let month := (5 * dayOfYear + 2) / 153
  let year := cycle * 400 + yearOfCycle
  { year := if month < 10 then year else year + 1
    month := if month < 10 then month + 3 else month - 9
    day := dayOfYear - (153 * month + 2) / 5 + 1 }

/-- The number of the first of January 1970. -/
def epoch : Nat := 719468

end Date

def secondsPerDay : Nat := 86400

end GrapheneSigner
