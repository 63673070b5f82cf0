import GrapheneSigner.Failure.Issue
import GrapheneSigner.Model.TimePoint
import GrapheneSigner.Text.Numeral
import GrapheneSigner.Text.Quoted

/-!
# Foreign failures

What goes wrong outside of this library's own model of faults is a foreign failure.  Foreign
failures are told apart by their cause and have a message only where one is passed on.  Integers
without numeral and time points without time stamp are such failures wherever they are put into a
text.
-/

namespace GrapheneSigner

/-- Failures that are not faults of this library's own model. -/
inductive Foreign where
  /-- An input breaks rules. -/
  | invalid (issues : List Issue)
  /-- A value is unsuitable. -/
  | badValue (message : Text)
  /-- A key is unknown. -/
  | unknownKey (message : Text)
  /-- A value has the wrong kind. -/
  | wrongKind (message : Text)
  /-- A value lacks the member that was asked for. -/
  | noMember
  /-- A number is too large for its purpose. -/
  | overflow
  /-- An index is outside of a list. -/
  | noIndex
  /-- A text has surrogates and therefore no bytes. -/
  | unencodable
  /-- Something did not happen in time. -/
  | timedOut
  /-- A value cannot be written as plain data. -/
  | unwritable
  /-- A value does not fit its wire type. -/
  | unpackable
  /-- The calendar of the system has no such year. -/
  | noCalendarYear
  deriving DecidableEq

namespace Foreign

def message : Foreign → Text
  | badValue m => m
  | unknownKey m => m.quoted
  | wrongKind m => m
  | _ => []

/-- An integer has too many digits for a text. -/
def overlong : Foreign := badValue Numeral.overlong

end Foreign

/-- The numeral of an integer, as a step that can fail. -/
def Numeral.shown (i : Int) : Except Foreign Text := (write i).mapError .badValue

theorem Numeral.shown_eq (i : Int) :
    shown i = if isWritable i then .ok (Text.ofInt i) else .error .overlong := by
  unfold shown write
  split <;> rfl

/-- The failure of a time point that has no time stamp. -/
def TimePoint.Fault.toForeign : TimePoint.Fault → Foreign
  | lateYear year => .badValue (lit "year " ++ Text.ofInt year ++ lit " is out of range")
  | noCalendarYear => .noCalendarYear
  | noClockTime => .overflow

end GrapheneSigner
