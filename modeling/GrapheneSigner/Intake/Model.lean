import GrapheneSigner.Intake.Scalar

/-!
# Reading typed values

Each typed value is read from its arguments, by name, or in a field, where a value of the type
may stand as it is.  Names may also stand as texts, and time points as integers, time stamps and
clock readings.
-/

namespace GrapheneSigner

abbrev Arguments := List (Text × Value)

def Arguments.get? (args : Arguments) (name : String) : Option Value :=
  Value.entry? args (lit name)

namespace AccountName

def ofArgument (v : Value) : Reading AccountName :=
  ((Reading.chars v).andThen fun t ↦ .ofExcept (read t)).at "name"

def ofName (v : Value) : Reading AccountName :=
  match v with
  | .chars t => (ofArgument v).builtApart (read t)
  | _ => ofArgument v

/-- An account name in a field: itself, a text, or a table with a name.  The name `self` is taken in
such a table. -/
def ofField : Value → Reading AccountName
  | .account a => .ok a
  | .chars t => ofArgument (.chars t)
  | .table entries =>
    match Arguments.get? entries "name", Arguments.get? entries "self" with
    | some v, none => ofName v
    | _, _ => .abort (.wrongKind [])
  | _ => .issue .notAModel

/-- The account name that a value is, or that its text names. -/
def ofValue : Value → Except Failure AccountName
  | .account a => .ok a
  | v => (ofArgument v).run

end AccountName

namespace Asset

/-- An asset symbol of a written name. -/
def symbolNamed (t : Text) : Reading AssetSymbol :=
  match AssetSymbol.ofName? t with
  | some s => .ok s
  | none => .issue .notAMember

/-- An asset symbol from its name, which may come as UTF-8 bytes. -/
def symbolOf : Value → Reading AssetSymbol
  | .chars t => if t.isEncodable then symbolNamed t else .issue .notUnicode
  | .bytes b =>
    match Text.ofUtf8? b with
    | some t => symbolNamed t
    | none => .issue .notAMember
  | _ => .issue .notAMember

def ofArguments (args : Arguments) : Reading Asset :=
  Asset.mk <$> (Reading.required Reading.int (args.get? "amount")).at "amount"
    <*> (Reading.required symbolOf (args.get? "symbol")).at "symbol"

/-- An asset in a field: itself, or a table of its arguments. -/
def ofField : Value → Reading Asset
  | .asset a => .ok a
  | .table entries => ofArguments entries
  | _ => .issue .notAModel

/-- The asset that a text is the written form of. -/
def ofValue : Value → Except Failure Asset
  | .chars t => (read t).mapError Failure.badValue
  | .bytes _ => .error (.foreign (.wrongKind []))
  | _ => .error (.foreign .noMember)

end Asset

namespace TimePoint

/-- The letter at the end of a time stamp in UTC. -/
def zulu : CodePoint := .ofNat 0x5A

/-- The seconds of a time point: an integer, a clock reading, or a time stamp, which may end
with any number of letters Z and whose time is counted in microseconds like a clock reading. -/
def secondsOf : Value → Reading Nat
  | .clock r => .nat (.int r.seconds)
  | .chars t => (Reading.ofExcept (Timestamp.read (t.trimEnd (· = zulu)))).andThen
      fun i ↦ .nat (.int (wholeSeconds (i * 1000000)))
  | v => .nat v

def ofSeconds (v : Value) : Reading TimePoint := (TimePoint.mk <$> secondsOf v).at "seconds"

/-- A time point from its arguments; without one it is not set. -/
def ofArguments (args : Arguments) : Reading TimePoint :=
  Reading.optional unset ofSeconds (args.get? "seconds")

def ofStamp (t : Text) : Reading TimePoint :=
  (ofSeconds (.chars t)).builtApart (Timestamp.read (t.trimEnd (· = zulu)))

/-- A time point in a field: itself, its seconds, nothing, or a table of its arguments. -/
def ofField : Value → Reading TimePoint
  | .null => .ok unset
  | .int i => ofSeconds (.int i)
  | .bool b => ofSeconds (.bool b)
  | .chars t => ofStamp t
  | .clock r => ofSeconds (.clock r)
  | .time t => .ok t
  | .table entries => ofArguments entries
  | _ => .issue .notAModel

/-- The time point of a number of seconds that may be out of range. -/
def ofInt (i : Int) : Except Failure TimePoint := (ofSeconds (.int i)).run

/-- The time point some seconds later; the sum has to be a time point. -/
def addSeconds (t : TimePoint) (seconds : Int) : Except Failure TimePoint :=
  ofInt (t.seconds + seconds)

/-- The time point a number later, when the number is a float and the sum is rounded. -/
def addValue (t : TimePoint) : Value → Except Failure TimePoint
  | .int i => t.addSeconds i
  | .bool b => t.addSeconds (if b then 1 else 0)
  | .float x =>
    match Binary64.ofInt t.seconds with
    | .finite n m e => (ofSeconds (.float ((Binary64.finite n m e).add x))).run
    | _ => .error (.foreign .overflow)
  | _ => .error (.foreign (.wrongKind []))

/-- The time point a duration later; the fraction of a second is dropped. -/
def addDuration (t : TimePoint) (d : Duration) : Except Failure TimePoint :=
  t.addSeconds d.seconds

/-- A time point cannot be changed. -/
def assign (_ : TimePoint) (name : Text) (_ : Value) : Except Failure TimePoint :=
  (Reading.behind (.field name) (.issue .frozen)).run

end TimePoint

namespace Extension

/-- An extension from its arguments; the type is 0 unless given. -/
def ofArguments (args : Arguments) : Reading Extension :=
  (Extension.mk <$> Reading.optional 0 Reading.int (args.get? "type_id")).at "type_id"

/-- An extension in a field: itself, or a table of its arguments. -/
def ofField : Value → Reading Extension
  | .extension e => .ok e
  | .table entries => ofArguments entries
  | _ => .issue .notAModel

end Extension

namespace Duration

/-- A sum in the making: a whole number of microseconds, and what is left over. -/
structure Tally where
  whole : Int
  rest : Binary64

/-- Adds a number of units of `size` microseconds.  The integer part of a float counts exactly;
the rest of it is multiplied in double precision, and what that leaves is left over. -/
def Tally.addUnits (sum : Tally) (size : Nat) : Value → Except Failure Tally
  | .float x =>
    match x.truncate? with
    | some i =>
      let part := x.fraction.scale size
      .ok ⟨sum.whole + i * size + (part.truncate?).getD 0, sum.rest.add part.fraction⟩
    | none => .error (if x = .notANumber then .badValue (lit "cannot convert float NaN to integer")
        else .foreign .overflow)
  | v =>
    match v.integer? with
    | some i => .ok ⟨sum.whole + i * size, sum.rest⟩
    | none => .error (.foreign (.wrongKind []))

/-- The integer nearest to a sum, a tie to the even one. -/
def Tally.nearest (sum : Tally) : Int :=
  match sum.rest.ratio? with
  | some (negative, num, den) =>
    let total := sum.whole * den + (if negative then -(num : Int) else num)
    if total < 0 then -(roundHalfEven total.natAbs den : Int) else roundHalfEven total.natAbs den
  | none => sum.whole

def Tally.empty : Tally := ⟨0, .ofInt 0⟩

/-- The duration of a sum, rounded to whole microseconds. -/
def Tally.duration (sum : Tally) : Except Failure Duration :=
  match ofMicroseconds? sum.nearest with
  | some duration => .ok duration
  | none => .error (.foreign .overflow)

def ofParts (days seconds microseconds : Value) : Except Failure Duration := do
  let sum ← Tally.empty.addUnits 1 microseconds
  let sum ← sum.addUnits 1000000 seconds
  (← sum.addUnits microsecondsPerDay.toNat days).duration

def ofMinutes (minutes : Value) : Except Failure Duration := do
  (← Tally.empty.addUnits 60000000 minutes).duration

end Duration

end GrapheneSigner
