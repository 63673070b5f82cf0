import GrapheneSigner.Calendar.Instant

/-!
# Time points

A time point counts seconds from the epoch, and zero stands for "not set".  It is written as a
time stamp, which exists up to the end of the year 9999; beyond that `TimePoint.write` says why
there is none.
-/

namespace GrapheneSigner

/-- Seconds since the epoch; zero means not set. -/
structure TimePoint where
  seconds : Nat
  deriving DecidableEq

/-- Why a time point has no time stamp. -/
inductive TimePoint.Fault where
  /-- The year is beyond 9999; its number is reduced into 32 bits with sign. -/
  | lateYear (year : Int)
  /-- The year is beyond what the calendar counts. -/
  | noCalendarYear
  /-- The seconds are beyond what a clock counts. -/
  | noClockTime
  deriving DecidableEq

namespace TimePoint

def unset : TimePoint := ⟨0⟩

def isSet (t : TimePoint) : Bool := t.seconds != 0

/-- Clocks count seconds below this bound, 2 to the power 63. -/
def clockBound : Nat := 0x8000000000000000

/-- Calendars count years from 1900 on, and only 2 to the power 31 of them. -/
def calendarBound : Nat := 1900 + 0x80000000

def write (t : TimePoint) : Except Fault Text :=
  if clockBound ≤ t.seconds then .error .noClockTime
  else
    let parts := Timestamp.Parts.ofSeconds t.seconds
    if calendarBound ≤ parts.date.year then .error .noCalendarYear
    else if 9999 < parts.date.year then
      .error (.lateYear ((parts.date.year : Int).bmod 0x100000000))
    else .ok parts.write

end TimePoint

/-- An extension slot of a transaction.  Only type 0 can be written. -/
structure Extension where
  typeId : Int
  deriving DecidableEq

end GrapheneSigner
