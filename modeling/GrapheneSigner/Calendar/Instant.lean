import GrapheneSigner.Calendar.Timestamp
import GrapheneSigner.Decimal.Binary64

/-!
# Durations and instants

A duration is a whole number of microseconds.  A wall clock reading is a date, a time of day to the
microsecond, and possibly an offset from UTC, which is a duration of less than a day; a reading
without offset is taken as UTC.  Seconds are computed from the exact number of microseconds by one
division in double precision and truncation toward zero.
-/

namespace GrapheneSigner

/-- Microseconds divided by a million in double precision and truncated toward zero. -/
def wholeSeconds (microseconds : Int) : Int :=
  ((Binary64.ofRatio (microseconds < 0) microseconds.natAbs 1000000).truncate?).getD 0

/-- A span of time in microseconds. -/
structure Duration where
  microseconds : Int
  deriving DecidableEq

namespace Duration

def zero : Duration := ⟨0⟩

def microsecondsPerDay : Int := 86400000000

/-- A duration has fewer than a milliard days in either direction. -/
def ofMicroseconds? (microseconds : Int) : Option Duration :=
  if (microseconds.fdiv microsecondsPerDay).natAbs ≤ 999999999 then some ⟨microseconds⟩ else none

/-- A duration of whole seconds. -/
def ofSeconds? (seconds : Int) : Option Duration := ofMicroseconds? (seconds * 1000000)

def seconds (d : Duration) : Int := wholeSeconds d.microseconds

/-- A duration as messages show it: days, seconds of a day and microseconds, those that are not
zero.  Only the days can be negative. -/
def shown (d : Duration) : Text :=
  let ofDay := d.microseconds.fmod microsecondsPerDay
  let parts := [("days=", d.microseconds.fdiv microsecondsPerDay), ("seconds=", ofDay / 1000000),
    ("microseconds=", ofDay % 1000000)]
  let written := (parts.filter fun p ↦ p.2 ≠ 0).map fun p ↦ lit p.1 ++ Text.ofInt p.2
  lit "datetime.timedelta("
    ++ (if written.isEmpty then lit "0" else Text.join (lit ", ") written) ++ lit ")"

/-- A duration as an offset from UTC is written: hours and minutes behind a sign, and seconds and
microseconds where it has them. -/
def offsetText (d : Duration) : Text :=
  let n := d.microseconds.natAbs
  let padded := Text.ofNatPadded 2
  (if d.microseconds < 0 then lit "-" else lit "+") ++ padded (n / 3600000000)
    ++ lit ":" ++ padded (n / 60000000 % 60)
    ++ (if n % 60000000 = 0 then [] else lit ":" ++ padded (n / 1000000 % 60))
    ++ (if n % 1000000 = 0 then [] else lit "." ++ Text.ofNatPadded 6 (n % 1000000))

end Duration

/-- The reading of a wall clock.  The offset is the time by which the clock is ahead of UTC. -/
structure ClockReading where
  date : Date
  hour : Nat
  minute : Nat
  second : Nat
  microsecond : Nat
  offset : Option Duration
  deriving DecidableEq

namespace ClockReading

/-- An offset is shorter than a day. -/
def checkOffset (d : Duration) : Except Text Duration :=
  if d.microseconds.natAbs < Duration.microsecondsPerDay then .ok d
  else .error (lit "offset must be a timedelta strictly between -timedelta(hours=24) and "
    ++ lit "timedelta(hours=24), not " ++ d.shown ++ lit ".")

/-- Checks the parts of a reading; the error says which part is out of range. -/
def ofParts (year month day hour minute second microsecond : Int) (offset : Option Duration) :
    Except Text ClockReading :=
  if year < 1 ∨ 9999 < year then
    .error (lit "year " ++ Text.ofInt year ++ lit " is out of range")
  else if month < 1 ∨ 12 < month then .error (lit "month must be in 1..12")
  else if day < 1 ∨ (Date.daysInMonth year.toNat month.toNat : Int) < day then
    .error (lit "day is out of range for month")
  else if hour < 0 ∨ 23 < hour then .error (lit "hour must be in 0..23")
  else if minute < 0 ∨ 59 < minute then .error (lit "minute must be in 0..59")
  else if second < 0 ∨ 59 < second then .error (lit "second must be in 0..59")
  else if microsecond < 0 ∨ 999999 < microsecond then
    .error (lit "microsecond must be in 0..999999")
  else .ok
    { date := ⟨year.toNat, month.toNat, day.toNat⟩, hour := hour.toNat, minute := minute.toNat
      second := second.toNat, microsecond := microsecond.toNat, offset }

/-- The microseconds from the epoch to a reading. -/
def microseconds (r : ClockReading) : Int :=
  Timestamp.Parts.seconds ⟨r.date, r.hour, r.minute, r.second⟩ * 1000000 + r.microsecond
    - (r.offset.getD .zero).microseconds

/-- The whole seconds from the epoch to a reading. -/
def seconds (r : ClockReading) : Int := wholeSeconds r.microseconds

/-- The reading with its fraction and its offset, where it has them. -/
def isoText (r : ClockReading) : Text :=
  Timestamp.Parts.write ⟨r.date, r.hour, r.minute, r.second⟩
    ++ (if r.microsecond = 0 then [] else lit "." ++ Text.ofNatPadded 6 r.microsecond)
    ++ (match r.offset with
      | none => []
      | some d => d.offsetText)

end ClockReading

end GrapheneSigner
