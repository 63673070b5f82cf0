import GrapheneSigner.Decimal.Shortest
import GrapheneSigner.Value.Basic

/-!
# How values are shown

Messages show values in one notation: texts and byte strings quoted, lists in brackets, tables in
braces in the order of their entries, typed values by name and fields.  `Value.plain` is the form
in running text, which differs for texts and for the typed values that have a written form.  A value
cannot be shown if an integer in it has no numeral, or if an object in it does not show itself.
-/

namespace GrapheneSigner

namespace ClockReading

/-- The offset of a clock reading as messages show it. -/
def shownOffset (d : Duration) : Text :=
  if d = .zero then lit "datetime.timezone.utc" else lit "datetime.timezone(" ++ d.shown ++ lit ")"

/-- A clock reading by its parts; trailing zero parts of the time are left out. -/
def shown (r : ClockReading) : Text :=
  let parts := [r.date.year, r.date.month, r.date.day, r.hour, r.minute]
    ++ (if r.second = 0 ∧ r.microsecond = 0 then [] else [r.second])
    ++ (if r.microsecond = 0 then [] else [r.microsecond])
  let zone := match r.offset with
    | none => []
    | some offset => lit ", tzinfo=" ++ shownOffset offset
  lit "datetime.datetime(" ++ Text.join (lit ", ") (parts.map Text.ofNat) ++ zone ++ lit ")"

end ClockReading

def openBrace : Text := [.ofNat 0x7B]

def closeBrace : Text := [.ofNat 0x7D]

namespace Value

/-- A typed value: its kind, and its fields in parentheses. -/
def shownFields (v : Value) (fields : Text) : Text := v.kindName ++ lit "(" ++ fields ++ lit ")"

/-- A typed value with an integer behind the text `before` among its fields. -/
def shownNumber (v : Value) (before : String) (i : Int) (behind : Text) : Except Foreign Text :=
  (Numeral.shown i).map fun numeral ↦ v.shownFields (lit before ++ numeral ++ behind)

/-- A value without parts, as messages show it. -/
def shownLeaf (v : Value) : Except Foreign Text :=
  match v with
  | null => .ok (lit "None")
  | bool b => .ok (if b then lit "True" else lit "False")
  | int i => Numeral.shown i
  | float x => .ok x.shortest
  | chars t => .ok t.quoted
  | bytes b => .ok (Bytes.quoted b)
  | account a => .ok (v.shownFields (lit "name=" ++ a.name.quoted))
  | asset a => v.shownNumber "amount=" a.amount (lit ", symbol=<AssetSymbol."
      ++ a.symbol.name ++ lit ": " ++ a.symbol.name.quoted ++ lit ">")
  | time t => v.shownNumber "seconds=" t.seconds []
  | extension e => v.shownNumber "type_id=" e.typeId []
  | clock r => .ok r.shown
  | object o => o.shown
  | list _ => .ok (lit "[]")
  | tuple _ => .ok (lit "()")
  | table _ => .ok (openBrace ++ closeBrace)

/-- The members of a tuple in parentheses; a comma tells a single member from one in brackets. -/
def shownTuple : List Text → Text
  | [member] => lit "(" ++ member ++ lit ",)"
  | members => lit "(" ++ Text.join (lit ", ") members ++ lit ")"

mutual

def shown : Value → Except Foreign Text
  | list vs => (shownList vs).map fun members ↦
      lit "[" ++ Text.join (lit ", ") members ++ lit "]"
  | tuple vs => (shownList vs).map shownTuple
  | table entries => (shownEntries entries).map fun members ↦
      openBrace ++ Text.join (lit ", ") members ++ closeBrace
  | null => shownLeaf null
  | bool b => shownLeaf (bool b)
  | int i => shownLeaf (int i)
  | float x => shownLeaf (float x)
  | chars t => shownLeaf (chars t)
  | bytes b => shownLeaf (bytes b)
  | account a => shownLeaf (account a)
  | asset a => shownLeaf (asset a)
  | time t => shownLeaf (time t)
  | extension e => shownLeaf (extension e)
  | clock r => shownLeaf (clock r)
  | object o => shownLeaf (object o)

def shownList : List Value → Except Foreign (List Text)
  | [] => .ok []
  | v :: vs =>
    match v.shown, shownList vs with
    | .ok member, .ok members => .ok (member :: members)
    | .error failure, _ => .error failure
    | _, .error failure => .error failure

def shownEntries : List (Text × Value) → Except Foreign (List Text)
  | [] => .ok []
  | e :: es =>
    match shownEntry e, shownEntries es with
    | .ok member, .ok members => .ok (member :: members)
    | .error failure, _ => .error failure
    | _, .error failure => .error failure

/-- A name, a colon and a value. -/
def shownEntry : Text × Value → Except Foreign Text
  | (name, v) =>
    match v.shown with
    | .ok text => .ok (name.quoted ++ lit ": " ++ text)
    | .error failure => .error failure

end

@[simp]
theorem shown_int (i : Int) : (int i).shown = Numeral.shown i := by
  rw [shown, shownLeaf]

@[simp]
theorem shown_object (o : Object) : (object o).shown = o.shown := by
  rw [shown, shownLeaf]

/-- A value in running text.  A time point beyond the calendar has no such form. -/
def plain : Value → Except Foreign Text
  | chars t => .ok t
  | account a => .ok a.name
  | asset a => a.print.mapError .badValue
  | time t => t.write.mapError TimePoint.Fault.toForeign
  | extension e => (Numeral.shown e.typeId).map fun numeral ↦ lit "type_id=" ++ numeral
  | clock r => .ok (r.isoText.map fun c ↦ if c.val = 0x54 then .ofNat 0x20 else c)
  | v => v.shown

end Value

end GrapheneSigner
