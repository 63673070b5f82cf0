import GrapheneSigner.Decimal.Binary64
import GrapheneSigner.Failure.Foreign
import GrapheneSigner.Model.AccountName
import GrapheneSigner.Model.Asset
import GrapheneSigner.Model.TimePoint

/-!
# Values

Callers hand in values of any kind, and fields that were assigned without a check hold them.  A
value is a plain datum, a list, a tuple or a table of values, one of the typed values of this
library, or an object of a kind of the caller's own.  The functions here are the questions that the
library asks of a value before it knows its kind.
-/

namespace GrapheneSigner

/-- An object of a kind of the caller's own.  It is no number, no text and no collection, and counts
as true. -/
structure Object where
  kindName : Text
  /-- The object in its own notation; it may fail to give one. -/
  shown : Except Foreign Text

/-- A value that a caller can hand in. -/
inductive Value where
  | null
  | bool (b : Bool)
  | int (i : Int)
  | float (x : Binary64)
  | chars (t : Text)
  | bytes (b : Bytes)
  | list (vs : List Value)
  | tuple (vs : List Value)
  | table (entries : List (Text × Value))
  | account (a : AccountName)
  | asset (a : Asset)
  | time (t : TimePoint)
  | extension (e : Extension)
  | clock (r : ClockReading)
  | object (o : Object)

namespace Value

/-- The integer that a value is, where truth values count as one and zero. -/
def integer? : Value → Option Int
  | bool b => some (if b then 1 else 0)
  | int i => some i
  | _ => none

/-- The integer that a number equals; floats count where they are whole. -/
def wholeNumber? : Value → Option Int
  | float x => x.toInt?
  | v => v.integer?

def isZero (v : Value) : Bool := v.wholeNumber? == some 0

def chars? : Value → Option Text
  | chars t => some t
  | _ => none

/-- A value counts as true unless it is zero, empty, false or absent. -/
def truthy : Value → Bool
  | null => false
  | bool b => b
  | int i => i != 0
  | float x => !x.isZero
  | chars t => !t.isEmpty
  | bytes b => !b.isEmpty
  | list vs => !vs.isEmpty
  | tuple vs => !vs.isEmpty
  | table entries => !entries.isEmpty
  | _ => true

/-- The last entry of a name in a table. -/
def entry? (entries : List (Text × Value)) (name : Text) : Option Value :=
  (entries.reverse.find? fun e ↦ e.1 = name).map (·.2)

/-- The title of extensions. -/
def extensionTitle : Text := lit "FutureExtensions"

/-- The word by which messages name the kind of a value. -/
def kindName : Value → Text
  | null => lit "NoneType"
  | bool _ => lit "bool"
  | int _ => lit "int"
  | float _ => lit "float"
  | chars _ => lit "str"
  | bytes _ => lit "bytes"
  | list _ => lit "list"
  | tuple _ => lit "tuple"
  | table _ => lit "dict"
  | account _ => lit "AccountName"
  | asset _ => lit "Asset"
  | time _ => lit "TimePointSec"
  | extension _ => extensionTitle
  | clock _ => lit "datetime"
  | object o => o.kindName

end Value

end GrapheneSigner
