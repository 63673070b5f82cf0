import GrapheneSigner.Intake.Reading
import GrapheneSigner.Text.Numeral
import GrapheneSigner.Value.Members

/-!
# Reading scalars

Scalar fields are read leniently.  Integers may come as truth values, as whole floats of at most
64 bits and as numerals; truth values as zero and one and as the usual words; texts as UTF-8 bytes;
and lists as tuples and as typed values, which stand for the lists of their fields.  Bounds are
checked on the integer that was read.
-/

namespace GrapheneSigner

namespace Reading

/-- An integer numeral in a text. -/
def numeral (t : Text) : Reading Int :=
  if !t.isEncodable then issue .notUnicode
  else if Numeral.isOverlong t then issue .tooLarge
  else match Numeral.readField? t with
    | some i => ok i
    | none => issue .notANumeral

/-- Whole floats are read between this bound and its negative, exclusively: 2 to the power 63. -/
def wholeBound : Int := 0x8000000000000000

def wholeFloat (x : Binary64) : Reading Int :=
  if !x.isFinite then issue .notFinite
  else match x.toInt? with
    | some i => if -wholeBound < i ∧ i < wholeBound then ok i else issue .tooLarge
    | none => issue .fractional

def int : Value → Reading Int
  | .int i => ok i
  | .bool b => ok (if b then 1 else 0)
  | .float x => wholeFloat x
  | .chars t => numeral t
  | .bytes b =>
    match Text.ofUtf8? b with
    | some t => numeral t
    | none => issue .notANumeral
  | _ => issue .notAnInteger

def atLeast (low : Int) (r : Reading Int) : Reading Int :=
  r.andThen fun i ↦ if low ≤ i then ok i else issue .tooSmall

def atMost (high : Int) (r : Reading Int) : Reading Int :=
  r.andThen fun i ↦ if i ≤ high then ok i else issue .tooGreat

def above (low : Int) (r : Reading Int) : Reading Int :=
  r.andThen fun i ↦ if low < i then ok i else issue .notAbove

def nat (v : Value) : Reading Nat := (atLeast 0 (int v)).map Int.toNat

def trueWords : List Text := ["1", "t", "true", "y", "yes", "on"].map lit

def falseWords : List Text := ["0", "f", "false", "n", "no", "off"].map lit

/-- A word for a truth value, in any letter case. -/
def truthWord (t : Text) : Reading Bool :=
  if !t.isEncodable then issue .notUnicode
  else
    let word := t.map CodePoint.asciiLower
    if trueWords.contains word then ok true
    else if falseWords.contains word then ok false
    else issue .notATruthWord

/-- A truth value from an integer: zero or one.  What needs more than 64 bits is no candidate. -/
def truthInt (i : Int) : Reading Bool :=
  if i = 0 then ok false
  else if i = 1 then ok true
  else if -wholeBound ≤ i ∧ i < wholeBound then issue .notATruthWord
  else issue .notATruthValue

def bool : Value → Reading Bool
  | .bool b => ok b
  | .int i => truthInt i
  | .float x =>
    match x.toInt? with
    | some i => if i = -wholeBound then issue .notATruthValue else truthInt i
    | none => issue .notATruthValue
  | .chars t => truthWord t
  | .bytes b =>
    match Text.ofUtf8? b with
    | some t => truthWord t
    | none => issue .notATruthWord
  | _ => issue .notATruthValue

def chars : Value → Reading Text
  | .chars t => ok t
  | .bytes b =>
    match Text.ofUtf8? b with
    | some t => ok t
    | none => issue .notUnicode
  | _ => issue .notAText

/-- A list whose members are read by `f`. -/
def list {α : Type} (f : Value → Reading α) : Value → Reading (List α)
  | .tuple members => each f 0 members
  | v =>
    match v.collection? with
    | some (.list, members) => each f 0 members
    | some (.record, members) => each f 0 members
    | _ => issue .notAList

def required {α : Type} (f : Value → Reading α) : Option Value → Reading α
  | some v => f v
  | none => issue .missing

def optional {α : Type} (default : α) (f : Value → Reading α) : Option Value → Reading α
  | some v => f v
  | none => ok default

end Reading

end GrapheneSigner
