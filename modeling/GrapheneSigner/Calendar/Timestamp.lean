import GrapheneSigner.Calendar.Gregorian
import GrapheneSigner.Text.DecimalDigit
import GrapheneSigner.Text.Quoted

/-!
# Time stamps

A time stamp is a text such as `2023-11-14T22:13:20`.  Writing gives two digits to every part but
the year, which has four.  Reading is more generous: digits may be those of any script, a part may
lack its leading zero, a blank may stand for the leading zero of the day, and the letter between
date and time may be small.  Where a part can be read in two lengths, the longer one is preferred.
-/

namespace GrapheneSigner

namespace Timestamp

/-- A part read from the front of a text, with what is left; preferred readings come first. -/
abbrev Readings := List (Nat × Text)

/-- Two code points: `first` admits the one, and the other is a digit admitted by `second`. -/
def two (first second : CodePoint → Option Nat) : Text → Readings
  | a :: b :: rest =>
    match first a, second b with
    | some x, some y => [(10 * x + y, rest)]
    | _, _ => []
  | _ => []

def one (value? : CodePoint → Option Nat) : Text → Readings
  | a :: rest => (value? a).toList.map (·, rest)
  | [] => []

/-- ASCII digits from `low` to `high`. -/
def between (low high : Nat) (c : CodePoint) : Option Nat :=
  if 0x30 + low ≤ c.val ∧ c.val ≤ 0x30 + high then some (c.val - 0x30) else none

/-- The blank that may stand for a leading zero. -/
def blankZero (c : CodePoint) : Option Nat := if c.val = 0x20 then some 0 else none

/-- Exactly four digits. -/
def year : Text → Readings
  | a :: b :: c :: d :: rest =>
    match a.decimal?, b.decimal?, c.decimal?, d.decimal? with
    | some w, some x, some y, some z => [(1000 * w + 100 * x + 10 * y + z, rest)]
    | _, _, _, _ => []
  | _ => []

def month (t : Text) : Readings :=
  two (between 1 1) (between 0 2) t ++ two (between 0 0) (between 1 9) t ++ one (between 1 9) t

def day (t : Text) : Readings :=
  two (between 3 3) (between 0 1) t ++ two (between 1 2) CodePoint.decimal? t
    ++ two (between 0 0) (between 1 9) t ++ one (between 1 9) t
    ++ two blankZero (between 1 9) t

def hour (t : Text) : Readings :=
  two (between 2 2) (between 0 3) t ++ two (between 0 1) CodePoint.decimal? t
    ++ one CodePoint.decimal? t

def minute (t : Text) : Readings :=
  two (between 0 5) CodePoint.decimal? t ++ one CodePoint.decimal? t

def second (t : Text) : Readings :=
  two (between 6 6) (between 0 1) t ++ two (between 0 5) CodePoint.decimal? t
    ++ one CodePoint.decimal? t

/-- A part behind a separator, which is given by the numbers of the code points it may be. -/
def behind (separator : List Nat) (part : Text → Readings) : Text → Readings
  | c :: rest => if separator.contains c.val then part rest else []
  | [] => []

/-- One part after the other. -/
def inOrder : List (Text → Readings) → Text → List (List Nat × Text)
  | [], t => [([], t)]
  | part :: parts, t =>
    (part t).flatMap fun (n, rest) ↦ (inOrder parts rest).map fun (ns, rest) ↦ (n :: ns, rest)

/-- The parts of a time stamp before they are checked against the calendar. -/
structure Parts where
  date : Date
  hour : Nat
  minute : Nat
  second : Nat
  deriving DecidableEq

/-- The six parts of a time stamp with their separators. -/
def grammar : List (Text → Readings) :=
  [year, behind [0x2D] month, behind [0x2D] day, behind [0x54, 0x74] hour,
    behind [0x3A] minute, behind [0x3A] second]

/-- Six numbers, in the order of the grammar. -/
def Parts.ofList? : List Nat → Option Parts
  | [y, mo, d, h, mi, s] => some { date := ⟨y, mo, d⟩, hour := h, minute := mi, second := s }
  | _ => none

/-- The preferred reading of a time stamp at the front of a text, with what is left. -/
def readPrefix? (t : Text) : Option (Parts × Text) :=
  match inOrder grammar t with
  | (ns, rest) :: _ => (Parts.ofList? ns).map (·, rest)
  | [] => none

/-- The seconds from the epoch to a time of a day, negative before the epoch. -/
def Parts.seconds (p : Parts) : Int :=
  ((p.date.dayNumber : Int) - Date.epoch) * secondsPerDay
    + (p.hour * 3600 + p.minute * 60 + p.second : Nat)

/-- Reads a time stamp that fills the whole text, or says why there is none. -/
def read (t : Text) : Except Text Int :=
  match readPrefix? t with
  | none => .error (lit "time data " ++ t.quoted
      ++ lit " does not match format '%Y-%m-%dT%H:%M:%S'")
  | some (p, rest) =>
    if rest ≠ [] then .error (lit "unconverted data remains: " ++ rest)
    else if p.date.year = 0 then .error (lit "year 0 is out of range")
    else if ¬ p.date.Exists then .error (lit "day is out of range for month")
    else if 60 ≤ p.second then .error (lit "second must be in 0..59")
    else .ok p.seconds

/-- The parts of the time stamp of a number of seconds since the epoch. -/
def Parts.ofSeconds (seconds : Nat) : Parts :=
  { date := Date.ofDayNumber (Date.epoch + seconds / secondsPerDay)
    hour := seconds % secondsPerDay / 3600
    minute := seconds % 3600 / 60
    second := seconds % 60 }

def Parts.write (p : Parts) : Text :=
  Text.ofNatPadded 4 p.date.year ++ lit "-" ++ Text.ofNatPadded 2 p.date.month ++ lit "-"
    ++ Text.ofNatPadded 2 p.date.day ++ lit "T" ++ Text.ofNatPadded 2 p.hour ++ lit ":"
    ++ Text.ofNatPadded 2 p.minute ++ lit ":" ++ Text.ofNatPadded 2 p.second

end Timestamp

end GrapheneSigner
