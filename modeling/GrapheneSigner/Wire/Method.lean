import GrapheneSigner.Wire.Writer

/-!
# Methods of a writer

A writer can be told by name what to do.  A method takes a value and possibly the name of a field,
which faults report; only appended bytes belong to no field.  Asking for the bytes so far, or for
their number, takes nothing and appends nothing.
-/

namespace GrapheneSigner

/-- What a writer can be told. -/
inductive Method where
  | fixed (width : WireInt)
  | varint
  | chars
  | counted
  | raw
  /-- A question about the bytes so far. -/
  | question

namespace Method

def ofName? (name : Text) : Option Method :=
  if name = lit "u8" then some (fixed .u8)
  else if name = lit "u16le" then some (fixed .u16)
  else if name = lit "i16le" then some (fixed .i16)
  else if name = lit "u32le" then some (fixed .u32)
  else if name = lit "i64le" then some (fixed .i64)
  else if name = lit "uvarint" then some varint
  else if name = lit "string" then some chars
  else if name = lit "len_prefixed_bytes" then some counted
  else if name = lit "bytes" then some raw
  else if name = lit "to_bytes" ∨ name = lit "__len__" then some question
  else none

/-- The call of a method with a value for a field. -/
def callFor (m : Method) (v : Value) (field : Option Text) : Call :=
  match m with
  | fixed width => .fixed width v field
  | varint => .varint v field
  | chars => .chars v field
  | counted => .counted v field
  | raw => .raw v
  | question => .raw (.bytes [])

/-- The call of a method with its arguments, if there are as many as it takes. -/
def call (m : Method) (args : List Value) : Except Failure Call :=
  match m, args with
  | question, [] => .ok (.raw (.bytes []))
  | question, _ => .error (.foreign (.wrongKind []))
  | m, [v] => .ok (m.callFor v none)
  | raw, _ => .error (.foreign (.wrongKind []))
  | m, [v, field] => .ok (m.callFor v field.chars?)
  | _, _ => .error (.foreign (.wrongKind []))

end Method

end GrapheneSigner
