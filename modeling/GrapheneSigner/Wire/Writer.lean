import GrapheneSigner.Failure.Basic
import GrapheneSigner.Value.Members
import GrapheneSigner.Wire.Integer

/-!
# Writing to the wire

A wire form is a sequence of calls, each of which appends one item: an integer of fixed width, a
count, a text behind its length in bytes, or bytes.  Calls take values of any kind, because fields
may hold anything; a call whose value does not fit is refused with a fault that names the field,
and appends nothing.  The fault of a number shows its value; a value that cannot be shown is refused
all the same, but by what keeps it from being shown.  An object may offer an integer to be packed in
its place, although it is none.  Bytes may come as any members; a member that is no byte is not
refused at once, but spoils the wire form as a whole.
-/

namespace GrapheneSigner

/-- One item to be appended; the field is the one that a refusal names. -/
inductive Call where
  | fixed (type : WireInt) (value : Value) (field : Option Text)
  /-- An object that offers an integer, or fails to. -/
  | offered (type : WireInt) (o : Object) (offer : Except Foreign Int) (field : Option Text)
  | varint (value : Value) (field : Option Text)
  | chars (value : Value) (field : Option Text)
  | raw (value : Value)
  | counted (value : Value) (field : Option Text)

/-- An integer is no byte. -/
def byteRangeFault : Failure := .badValue (lit "bytes must be in range(0, 256)")

/-- An encoding fault without cause. -/
def encodingFault (message : Text) (field : Option Text) : Failure :=
  .ofReport (.encoding message field [])

namespace Call

/-- How a field is named in a message; a field without name is just a value. -/
def fieldName (field : Option Text) : Text :=
  match field with
  | some (c :: rest) => c :: rest
  | _ => lit "value"

/-- The refusal of a value that is no integer of the type. -/
def misfit (type : WireInt) (value : Value) (field : Option Text) (cause : Foreign) : Failure :=
  .showing value.shown fun text ↦
    (Failure.foreign cause).causing (.encoding (lit "Value " ++ text ++ lit " of field '"
      ++ fieldName field ++ lit "' cannot be encoded as '" ++ type.sign ++ lit "'") field [])

/-- The refusal of a value that is no count. -/
def noVarint (value : Value) (field : Option Text) : Failure :=
  .showing value.shown fun text ↦
    encodingFault (lit "Value " ++ text ++ lit " of field '" ++ fieldName field
      ++ lit "' is not a valid varint") field

def noText (cause : Foreign) (field : Option Text) : Failure :=
  (Failure.foreign cause).causing
    (.encoding (lit "Field '" ++ fieldName field ++ lit "' is not a valid string") field [])

/-- Counts are below this bound. -/
def varintBound : Int := byteRange 8

/-- The byte that a value is. -/
def byte? (v : Value) : Option UInt8 :=
  v.integer?.bind fun i ↦ if 0 ≤ i ∧ i < 256 then some (UInt8.ofNat i.toNat) else none

/-- What is wrong with a member that is no byte. -/
def byteFault? (v : Value) : Option Failure :=
  match v.integer? with
  | some i => if 0 ≤ i ∧ i < 256 then none else some byteRangeFault
  | none => some (.foreign (.wrongKind []))

def bytes : Value → Except Failure Bytes
  | .bytes b => .ok b
  | v =>
    match v.collection? with
    | some (_, members) => .ok (members.filterMap byte?)
    | none => .error (.foreign (.wrongKind []))

def size : Value → Except Failure Nat
  | .bytes b => .ok b.length
  | v =>
    match v.countable? with
    | some (_, members) => .ok members.length
    | none => .error (.foreign (.wrongKind []))

/-- By these failures packing an integer says that the value is to blame. -/
def isMispacking : Foreign → Bool
  | .unpackable => true
  | .wrongKind _ => true
  | _ => false

/-- The bytes that a call appends, or its refusal. -/
def encode : Call → Except Failure Bytes
  | fixed type value field =>
    match value.integer?.bind type.encode? with
    | some bytes => .ok bytes
    | none => .error (misfit type value field .unpackable)
  | offered type o offer field =>
    match offer with
    | .ok i =>
      match type.encode? i with
      | some bytes => .ok bytes
      | none => .error (misfit type (.object o) field .unpackable)
    | .error cause =>
      .error (if isMispacking cause then misfit type (.object o) field cause else .foreign cause)
  | varint value field =>
    match value.integer? with
    | some i =>
      if 0 ≤ i ∧ i < varintBound then .ok (Varint.encode i.toNat)
      else .error (noVarint value field)
    | none => .error (noVarint value field)
  | chars value field =>
    match value with
    | .chars t =>
      match t.utf8? with
      | some bytes => .ok (Varint.encode bytes.length ++ bytes)
      | none => .error (noText .unencodable field)
    | _ => .error (noText .noMember field)
  | raw value => bytes value
  | counted value _ =>
    match size value, bytes value with
    | .ok n, .ok b => .ok (Varint.encode n ++ b)
    | .error failure, _ => .error failure
    | _, .error failure => .error failure

/-- What is wrong with the first member that a call would append although it is no byte. -/
def spoilt? : Call → Option Failure
  | raw (.bytes _) => none
  | raw value => value.collection?.bind fun c ↦ c.2.findSome? byteFault?
  | counted (.bytes _) _ => none
  | counted value _ => value.collection?.bind fun c ↦ c.2.findSome? byteFault?
  | _ => none

end Call

/-- Bytes that grow call by call. -/
structure Writer where
  bytes : Bytes

namespace Writer

def empty : Writer := ⟨[]⟩

/-- Appends what a call encodes; a refused call leaves the writer as it is. -/
def apply (w : Writer) (call : Call) : Writer × Except Failure Unit :=
  match call.encode with
  | .ok bytes => (⟨w.bytes ++ bytes⟩, .ok ())
  | .error failure => (w, .error failure)

/-- Applies a sequence of calls, whether or not some are refused. -/
def run (w : Writer) (calls : List Call) : Writer :=
  calls.foldl (fun w call ↦ (w.apply call).1) w

end Writer

end GrapheneSigner
