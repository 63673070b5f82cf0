import GrapheneSigner.Intake.Reading

/-!
# Assignments

Records are changed by assignments, and not every assignment aims at a field.  Beside its fields a
record has parts by which it is changed, checked and shown.  Another value may be put in the place
of a part, and mostly the part is out of order from then on.  The frame of a record says which of
its parts are in order, and which of its actions are covered by members of the same name.
-/

namespace GrapheneSigner

/-- The parts of a record beside its fields. -/
inductive Part where
  /-- What changes the fields. -/
  | setter
  /-- What checks the values that are assigned. -/
  | checker
  /-- What gives the plain form. -/
  | printer
  /-- The names that were assigned to. -/
  | tally
  /-- The members beyond the fields. -/
  | surplus
  deriving DecidableEq

/-- All members of a record at once; those that stand in for parts are kept apart. -/
structure Refill where
  named : List (Text × Value)
  parts : List (Part × Value)

/-- What is assigned, and to what. -/
inductive Assignment where
  /-- A value under a name. -/
  | field (name : Text) (v : Value)
  /-- A value in the place of a part. -/
  | part (p : Part) (v : Value)
  /-- All members at once; `none` if the value has no members by name. -/
  | members (m : Option Refill)
  /-- A value under a name that every record has, and that can only be read. -/
  | property (name : Text)
  /-- A value in the place of the kind of the record, which nothing can take. -/
  | kind
  /-- A value in a place that is closed. -/
  | sealed
  /-- A value under a name that nobody asks for. -/
  | aside

/-- Which parts of a record are in order, and which actions are covered. -/
structure Frame where
  setter : Bool := true
  /-- The names for which something else stands in the setter. -/
  blocked : List Text := []
  checker : Bool := true
  printer : Bool := true
  tally : Bool := true
  /-- The members beyond the fields; `none` if what is in their place has no members. -/
  surplus : Option (List (Text × Value)) := some []
  covered : List Text := []

namespace Frame

def namesIn (es : List (Text × Value)) : List Text :=
  (es.filter fun e ↦ match e.2 with
    | .null => false
    | _ => true).map (·.1)

/-- The frame after a value took the place of a part.  A table can stand in for the setter, where it
blocks its names, and a table or nothing at all for the surplus. -/
def replace (f : Frame) (p : Part) (v : Value) : Frame :=
  match p, v with
  | .setter, .table es => { f with setter := true, blocked := namesIn es }
  | .setter, _ => { f with setter := false }
  | .checker, _ => { f with checker := false }
  | .printer, _ => { f with printer := false }
  | .tally, _ => { f with tally := false }
  | .surplus, .null => { f with surplus := some [] }
  | .surplus, .table es => { f with surplus := some es }
  | .surplus, _ => { f with surplus := none }

/-- The frame after a value was put among the members under the name of a part.  The tally and the
surplus have places of their own and stay. -/
def put (f : Frame) (p : Part) (v : Value) : Frame :=
  match p with
  | .tally => f
  | .surplus => f
  | p => f.replace p v

def cover (f : Frame) (name : Text) : Frame := { f with covered := name :: f.covered }

/-- The frame after all members were replaced. -/
def refilled (f : Frame) (m : Refill) : Frame :=
  m.parts.foldl (fun f (p : Part × Value) ↦ f.put p.1 p.2)
    { f with
      setter := true, blocked := [], checker := true, printer := true
      covered := m.named.map (·.1) }

/-- Something else stands for an action. -/
def covers (f : Frame) (action : String) : Bool := f.covered.contains (lit action)

/-- The result of an action, unless something else stands for it. -/
def guarding {α : Type} (f : Frame) (action : String) (r : Except Failure α) : Except Failure α :=
  if f.covers action then .error (.foreign (.wrongKind [])) else r

/-- The failure of an assignment to a name that is blocked. -/
def blocking? (f : Frame) : Assignment → Option Failure
  | .field name _ => if f.blocked.contains name then some (.foreign (.wrongKind [])) else none
  | .property name => if f.blocked.contains name then some (.foreign (.wrongKind [])) else none
  | _ => none

/-- The frame after an assignment that does not concern the members by name; `none` for others. -/
def assign? (f : Frame) : Assignment → Option (Except Failure Frame)
  | .field .. => none
  | .property _ => none
  | .members (some _) => none
  | .members none => some (.error (.foreign (.wrongKind [])))
  | .part p v => some (.ok (f.replace p v))
  | .kind => some (.error (.foreign (.wrongKind [])))
  | .sealed => some (.error (.foreign .noMember))
  | .aside => some (.ok f)

/-- What a checked assignment reads, if the parts behind the setter are in order.  The tally is
needed when everything else has gone well. -/
def checking {α : Type} (f : Frame) (r : Reading α) : Except Failure α :=
  if !f.checker then .error (.foreign .noMember)
  else if f.surplus.isNone then .error (.foreign (.wrongKind []))
  else r.run.bind fun a ↦ if f.tally then .ok a else .error (.foreign (.wrongKind []))

/-- The members beyond the fields that a checked assignment to a name moves among the others. -/
def moved (f : Frame) (name : Text) : List (Text × Value) :=
  (f.surplus.getD []).filter fun e ↦ e.1 ≠ name

/-- The frame after all members beyond the fields were moved. -/
def drained (f : Frame) : Frame := { f with surplus := some [] }

/-- With all parts in order a checked assignment is nothing but its reading. -/
@[simp]
theorem checking_intact {α : Type} (r : Reading α) :
    ({ } : Frame).checking r = r.run := by
  cases h : r.run <;> simp [checking, h, Except.bind]

/-- A record that nobody has touched has no members beyond its fields. -/
@[simp]
theorem moved_intact (name : Text) : ({ } : Frame).moved name = [] := rfl

/-- No action of a record is covered that nobody has touched. -/
@[simp]
theorem covers_intact (action : String) : ({ } : Frame).covers action = false := rfl

end Frame

end GrapheneSigner
