import GrapheneSigner.Collection.Ledger
import GrapheneSigner.Intake.Assignment
import GrapheneSigner.Operation.Draft
import GrapheneSigner.Value.Exported

/-!
# Operations in a transaction

The operations of a transaction are drafts of the catalogue or operations of other kinds, which
are described by what they write and what they declare.  A list that is edited without check may
also hold bare values, which write themselves if they can and have nothing else.  All of these can
be assigned to; what a record holds besides its fields is in its frame.
-/

namespace GrapheneSigner

namespace Draft

/-- The plain form of a field under its wire name; a field that was taken away has none. -/
def form (name : String) (field : Option Value) (plainForm : Value → Except Failure Value) :
    List (Text × Except Failure Value) :=
  match field with
  | some v => [(lit name, plainForm v)]
  | none => []

/-- The plain forms of the fields, under their wire names. -/
def forms : Draft → List (Text × Except Failure Value)
  | vote voter author permlink weight =>
    form "voter" voter Value.exportedAccount ++ form "author" author Value.exportedAccount
      ++ form "permlink" permlink Value.exported ++ form "weight" weight Value.exported
  | transfer sender receiver amount memo =>
    form "from" sender Value.exportedAccount ++ form "to" receiver Value.exportedAccount
      ++ form "amount" amount Value.exportedAsset ++ form "memo" memo Value.exported
  | witnessVote account witness approve =>
    form "account" account Value.exportedAccount ++ form "witness" witness Value.exportedAccount
      ++ form "approve" approve Value.exported
  | customJson auths postingAuths id json =>
    form "required_auths" auths Value.exportedAccounts
      ++ form "required_posting_auths" postingAuths Value.exportedAccounts
      ++ form "id" id Value.exported ++ form "json" json Value.exported

def exported (d : Draft) : Except Failure Value :=
  (d.forms.mapM fun (field : Text × Except Failure Value) ↦
    field.2.map fun v ↦ (field.1, v)).map Value.table

end Draft

/-- An operation outside of the catalogue, by its fields and what it does with them. -/
structure Described where
  title : Text
  kind : OperationKind
  /-- The names of its fields. -/
  names : List Text
  /-- The values of its fields; a field that was taken away has none. -/
  fields : List (Text × Value)
  /-- The calls of its fields. -/
  body : List (Text × Value) → Writing
  /-- Its declarations, which may themselves fail. -/
  needs : List (Text × Value) → Except Failure (List Requirement)

/-- What may stand in the list of operations. -/
inductive Entry where
  | catalogue (draft : Draft) (frame : Frame := {})
  | described (operation : Described) (frame : Frame := {})
  | bare (v : Value) (frame : Frame := {})
  /-- A typed value whose fields were assigned to, unchecked. -/
  | record (kind : RecordKind) (fields : List (Text × Value)) (frame : Frame := {})

def Operation.toEntry (o : Operation) : Entry := .catalogue o.toDraft

namespace OperationKind

/-- The tag of a kind on the wire. -/
def call (k : OperationKind) : Call := .varint (.int k.tag) (some (lit "operation_type"))

/-- The calls of an operation: its tag and its fields, unless something else stands for one of the
actions that write them. -/
def writing (k : OperationKind) (frame : Frame) (body : Writing) : Writing :=
  if frame.covers "write" then [.error (.foreign (.wrongKind []))]
  else if frame.covers "operation_type" then [.error (.foreign .noMember)]
  else .ok k.call
    :: if frame.covers "write_fields" then [.error (.foreign (.wrongKind []))] else body

end OperationKind

namespace RecordKind

/-- The calls of an extension of any type; only a type that equals zero can be written. -/
def writingOfType (typeId : Value) : Writing :=
  if typeId.isZero then [.ok (.varint typeId none)]
  else [.error (Value.unsupported typeId.plain none)]

/-- The calls of a typed value with unchecked fields.  No unchecked value is an asset symbol. -/
def writing (k : RecordKind) (fields : List (Text × Value)) (frame : Frame) : Writing :=
  let field := fun name ↦ Value.entry? fields (lit name)
  if frame.covers "write" then [.error (.foreign (.wrongKind []))]
  else match k with
    | account => Draft.calls (field "name") fun v ↦ [.ok (.chars v none)]
    | asset => Draft.calls (field "amount") (fun v ↦ [.ok (.fixed .i64 v none)])
        ++ [.error (.foreign .noMember)]
    | time => Draft.calls (field "seconds") fun v ↦ [.ok (.fixed .u32 v none)]
    | extension => Draft.calls (field "type_id") writingOfType

/-- A typed value with unchecked fields in running text. -/
def plain (k : RecordKind) (fields : List (Text × Value)) : Except Failure Text :=
  let field := fun name ↦ Value.entry? fields (lit name)
  match k with
  | account => (Draft.present (field "name")).bind fun
      | .chars t => .ok t
      | _ => .error (.foreign (.wrongKind []))
  | asset => (Draft.present (field "amount")).bind fun v ↦
      .error (.foreign (if v.wholeNumber?.isSome then .noMember else .wrongKind []))
  | time => (Draft.present (field "seconds")).bind fun v ↦
      match v.integer? with
      | some i => if 0 ≤ i then (TimePoint.mk i.toNat).stamp else .error (.foreign (.wrongKind []))
      | none => .error (.foreign (.wrongKind []))
  | extension =>
      match field "type_id" with
      | some v => (v.shown.map fun text ↦ lit "type_id=" ++ text).mapError .foreign
      | none => .ok []

end RecordKind

namespace Entry

/-- The failure of asking for what is not there, such as the kind of a bare value. -/
def noOperation : Failure := .foreign .noMember

def frame : Entry → Frame
  | catalogue _ f => f
  | described _ f => f
  | bare _ f => f
  | record _ _ f => f

def framed (e : Entry) (f : Frame) : Entry :=
  match e with
  | catalogue d _ => catalogue d f
  | described o _ => described o f
  | bare v _ => bare v f
  | record k fields _ => record k fields f

def kind? : Entry → Option OperationKind
  | catalogue d _ => some d.kind
  | described o _ => some o.kind
  | bare .. => none
  | record .. => none

/-- What is under the name of an operation. -/
def name : Entry → Except Failure Value
  | catalogue d _ => .ok (.chars d.kind.title)
  | described o _ => .ok (.chars o.title)
  | bare (.account a) _ => .ok (.chars a.name)
  | bare .. => .error noOperation
  | record _ fields _ => Draft.present (Value.entry? fields (lit "name"))

/-- The name under which an operation reports itself, in running text. -/
def title (e : Entry) : Except Failure Text :=
  e.name.bind fun v ↦ v.plain.mapError .foreign

/-- The calls of an operation: its tag and its fields. -/
def writing : Entry → Writing
  | catalogue d f => d.kind.writing f d.body
  | described o f => o.kind.writing f (o.body o.fields)
  | bare v _ => v.writing none
  | record k fields f => k.writing fields f

def encode (e : Entry) : Except Failure Bytes := e.frame.guarding "to_bytes" e.writing.toBytes

/-- What an operation declares. -/
def requirements : Entry → Except Failure (List Requirement)
  | catalogue d f => f.guarding "signature_requirements" d.requirements
  | described o f => f.guarding "signature_requirements" (o.needs o.fields)
  | bare .. => .error noOperation
  | record .. => .error noOperation

/-- The plain form of an operation, if its printer is in order. -/
def exported (e : Entry) : Except Failure Value :=
  e.frame.guarding "model_dump" (if e.frame.printer then
    match e with
    | catalogue d _ => d.exported
    | described o _ => (Value.table o.fields).exported
    | bare v _ => v.exported
    | record _ fields _ => (Value.table fields).exported
  else .error noOperation)

/-- An operation in running text: its title and its kind. -/
def plain (e : Entry) : Except Failure Text :=
  match e with
  | record k fields _ => k.plain fields
  | e =>
    match e.kind? with
    | some k =>
      if e.frame.covers "operation_type" then .error noOperation
      else e.title.map fun title ↦ title ++ lit "(" ++ k.name ++ lit ")"
    | none => e.title

/-- An operation with its kind in lower case, as the network's interface shows it. -/
def toPair (e : Entry) : Except Failure Value :=
  match e.kind? with
  | some k =>
    if e.frame.covers "operation_type" then .error noOperation
    else e.exported.map fun form ↦ .list [.chars (k.name.map CodePoint.asciiLower), form]
  | none => .error noOperation

/-! ## Assignment -/

/-- The names of operations that can only be read. -/
def properties : List Text := [lit "operation_type", lit "name"]

/-- The failure of an assignment to a name that is no field of a record with this title. -/
def unknownField (title name : Text) : Failure :=
  .badValue (lit "\"" ++ title ++ lit "\" object has no field \"" ++ name ++ lit "\"")

/-- An extension with a value under a name, unchecked. -/
def assignType (fields : List (Text × Value)) (f : Frame) (name : Text) (v : Value) :
    Except Failure Entry :=
  if name = lit "type_id" then .ok (record .extension (Ledger.put name v fields) f)
  else .error (unknownField Value.extensionTitle name)

/-- The entry with a value under a name, unchecked; what cannot be changed at all is frozen. -/
def assignField (e : Entry) (name : Text) (v : Value) : Except Failure Entry :=
  match e with
  | catalogue d f =>
    match d.assign? name (some v) with
    | some d => .ok (catalogue d f)
    | none => .error (if properties.contains name then noOperation
        else unknownField d.kind.title name)
  | described o f =>
    if o.names.contains name then
      .ok (described { o with fields := Ledger.put name v o.fields } f)
    else .error (if properties.contains name then noOperation else unknownField o.title name)
  | bare (.extension _) f => assignType [] f name v
  | record .extension fields f => assignType fields f name v
  | _ =>
    if name.isEncodable then (Reading.behind (.field name) (.issue .frozen)).run
    else .error (.foreign .unencodable)

/-- The failure of an assignment to a name of every record that can only be read. -/
def assignProperty (e : Entry) (name : Text) : Failure :=
  match e with
  | bare (.extension _) _ => noOperation
  | record .extension .. => noOperation
  | bare .. => .foreign (.invalid [⟨.frozen, [.field name]⟩])
  | record .. => .foreign (.invalid [⟨.frozen, [.field name]⟩])
  | _ => noOperation

/-- The entry with all members replaced, and its frame accordingly. -/
def refilled (e : Entry) (m : Refill) : Entry :=
  match e with
  | catalogue d f => catalogue (d.refilled m.named) (f.refilled m)
  | described o f => described { o with fields := m.named } (f.refilled m)
  | bare v f =>
    match v.record? with
    | some (k, _) => record k m.named (f.refilled m)
    | none => e
  | record k _ f => record k m.named (f.refilled m)

/-- The record after an assignment, unchecked, and the failure of the assignment.  A value is in
place although the assignment could not be noted in the tally. -/
def assignRecord (e : Entry) (a : Assignment) : Entry × Option Failure :=
  if !e.frame.setter then (e, some noOperation)
  else
    match a, e.frame.assign? a, e.frame.blocking? a with
    | _, _, some failure => (e, some failure)
    | _, some (.ok f), none => (e.framed f, none)
    | _, some (.error failure), none => (e, some failure)
    | .field name v, none, none =>
      match e.assignField name v with
      | .ok after => (after, if e.frame.tally then none else some noOperation)
      | .error failure => (e, some failure)
    | .property name, none, none => (e, some (e.assignProperty name))
    | .members (some m), none, none => (e.refilled m, none)
    | _, none, none => (e, none)

/-- The entry has fields. -/
def isRecord : Entry → Bool
  | bare v _ => v.record?.isSome
  | _ => true

/-- The entry after an assignment, and the failure of the assignment.  Values without type cannot
be assigned to. -/
def assign (e : Entry) (a : Assignment) : Entry × Option Failure :=
  if e.isRecord then e.assignRecord a
  else
    (e, some (match a with
      | .kind => .foreign (.wrongKind [])
      | _ => noOperation))

/-- The authorities that a declaration stands for: its accounts, each in its role. -/
def authoritiesOf (title : Text) (r : Requirement) : Except Failure (List (Role × AccountName)) :=
  match r.accounts? with
  | some accounts => .ok (accounts.map fun a ↦ (r.role, a))
  | none => .error (r.malformed title)

/-- All authorities that an operation declares, in the order of declaration. -/
def authorities (e : Entry) : Except Failure (List (Role × AccountName)) := do
  let requirements ← e.requirements
  let title ← e.title
  return (← requirements.mapM (authoritiesOf title)).flatten

end Entry

namespace OperationKind

/-- The kind of a tag, given as any number that equals it. -/
def lookUp (v : Value) : Except Failure OperationKind :=
  match v.wholeNumber?.bind ofTag? with
  | some k => .ok k
  | none =>
    .error (.showing v.plain fun text ↦
      .foreign (.unknownKey (lit "Unsupported operation type: " ++ text)))

end OperationKind

end GrapheneSigner
