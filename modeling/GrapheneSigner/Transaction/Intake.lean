import GrapheneSigner.Transaction.Basic

/-!
# Building and changing transactions

A transaction is built from arguments by name, all of which have defaults.  Its fields can be
assigned with the same checks, and replaced without any check, one by one or all at once.  Its lists
can be edited member by member, unless they were replaced by something that is no list.
-/

namespace GrapheneSigner

namespace Entry

/-- What may be listed as an operation when a transaction is built: operations only. -/
def checked : Entry → Reading Entry
  | bare (.table _) _ => .abort (.wrongKind [])
  | bare .. => .issue .notAModel
  | e => .ok e

/-- The members of a list of operations, each at its index, counted from `n`. -/
def checkedFrom (n : Nat) : List Entry → Reading (List Entry)
  | [] => .ok []
  | e :: rest => ((e.checked.behind (.index n)).both (checkedFrom (n + 1) rest)).map
      fun (e, rest) ↦ e :: rest

end Entry

namespace Transaction

/-- A field that holds a natural number. -/
def natural (v : Value) : Reading Value := (Reading.nat v).map fun (n : Nat) ↦ .int n

def ofArguments (args : Arguments) (operations : List Entry) : Reading Transaction :=
  (fun refBlockNum refBlockPrefix expiration operations (extensions : List Extension) ↦
      { refBlockNum, refBlockPrefix, expiration, operations
        extensions := extensions.map .extension })
    <$> (Reading.optional (.int 0) natural (args.get? "ref_block_num")).at "ref_block_num"
    <*> (Reading.optional (.int 0) natural (args.get? "ref_block_prefix")).at "ref_block_prefix"
    <*> (Reading.optional TimePoint.unset TimePoint.ofField
        (args.get? "expiration")).at "expiration"
    <*> (Entry.checkedFrom 0 operations).at "operations"
    <*> (Reading.optional [] (Reading.list Extension.ofField)
        (args.get? "extensions")).at "extensions"

/-- The checked reading of a value for a field; `none` if there is no field of this name. -/
def readField? (t : Transaction) (name : Text) (v : Value) : Option (Reading Transaction) :=
  if name = lit "ref_block_num" then
    some ((natural v).map fun n ↦ { t with refBlockNum := n })
  else if name = lit "ref_block_prefix" then
    some ((natural v).map fun n ↦ { t with refBlockPrefix := n })
  else if name = lit "expiration" then
    some ((TimePoint.ofField v).map t.expiring)
  else if name = lit "operations" then
    some ((Reading.list (fun v ↦ (Entry.bare v).checked) v).map
      fun operations ↦ { t with operations, operationsHolder := .list })
  else if name = lit "extensions" then
    some ((Reading.list Extension.ofField v).map fun extensions ↦
      { t with extensions := extensions.map .extension, extensionsHolder := .list })
  else none

/-- The reading of an assignment to a name, where `r` is the one of the field, if there is one. -/
def readName {α : Type} (name : Text) (r : Option (Reading α)) : Reading α :=
  match r with
  | some r => r.behind (.field name)
  | none =>
    if name.isEncodable then Reading.behind (.field name) (.issue .noAttribute)
    else .abort .unencodable

/-- A field of the transaction replaced without check.  The field must have room for the value: the
expiration for a time point, the operations for what can be counted, and the extensions for what
has members.  A value under another name covers the action of that name. -/
def force (t : Transaction) (name : Text) (v : Value) : Except Failure Transaction :=
  if name = lit "ref_block_num" then .ok { t with refBlockNum := v }
  else if name = lit "ref_block_prefix" then .ok { t with refBlockPrefix := v }
  else if name = lit "expiration" then
    match v with
    | .time e => .ok (t.expiring e)
    | _ => .error (.foreign .noMember)
  else if name = lit "operations" then
    match v.countable? with
    | some (holder, members) =>
      .ok { t with operations := members.map .bare, operationsHolder := holder }
    | none => .error (.foreign (.wrongKind []))
  else if name = lit "extensions" then
    match v.collection? with
    | some (holder, members) => .ok { t with extensions := members, extensionsHolder := holder }
    | none => .error (.foreign (.wrongKind []))
  else .ok { t with frame := t.frame.cover name }

/-- Replaces fields of `t` in order, each of which has to be among the values. -/
def forceAll {α : Type} (force : α → Text → Value → Except Failure α)
    (named : List (Text × Value)) (t : α) : List Text → Except Failure α
  | [] => .ok t
  | name :: rest =>
    match Value.entry? named name with
    | some v => (force t name v).bind fun t ↦ forceAll force named t rest
    | none => .error (.foreign .noMember)

def fieldNames : List Text :=
  [lit "ref_block_num", lit "ref_block_prefix", lit "expiration", lit "operations",
    lit "extensions"]

/-- The transaction with all members replaced, which have to include all of its fields. -/
def refilled (t : Transaction) (m : Refill) : Except Failure Transaction :=
  (forceAll force m.named t fieldNames).map fun t ↦ { t with frame := t.frame.refilled m }

/-- The transaction after a checked assignment to a name, which has moved the members beyond the
fields among the others. -/
def settled (name : Text) (t : Transaction) : Except Failure Transaction :=
  (t.frame.moved name).foldlM (fun t e ↦ t.force e.1 e.2) { t with frame := t.frame.drained }

/-- The outcome of an assignment to a record with the frame `f`, given what it is with another
frame, with a name read, after a checked assignment, and with all members replaced. -/
def assigned {α : Type} (f : Frame) (a : Assignment) (framed : Frame → α)
    (read : Text → Value → Reading α) (settled : Text → α → Except Failure α)
    (refill : Refill → Except Failure α) : Except Failure α :=
  if !f.setter then .error (.foreign .noMember)
  else
    match a, f.assign? a, f.blocking? a with
    | _, _, some failure => .error failure
    | _, some r, none => r.map framed
    | .field name v, none, none =>
      if name = lit "id" then .error (.foreign .noMember)
      else (f.checking (read name v)).bind (settled name)
    | .members (some m), none, none => refill m
    | _, none, none => .error (.foreign .noMember)

/-- The transaction after an assignment, checked. -/
def assign (t : Transaction) (a : Assignment) : Except Failure Transaction :=
  assigned t.frame a (fun frame ↦ { t with frame })
    (fun name v ↦ readName name (t.readField? name v)) settled t.refilled

/-- The transaction with a value put among its members, unchecked. -/
def put (t : Transaction) (a : Assignment) : Except Failure Transaction :=
  match a with
  | .field name v => t.force name v
  | .part p v => .ok { t with frame := t.frame.put p v }
  | _ => .ok t

/-- The transaction with another expiration, assigned. -/
def expireAt (t : Transaction) (e : TimePoint) : Except Failure Transaction :=
  assigned t.frame (.field (lit "expiration") (.time e)) (fun frame ↦ { t with frame })
    (fun _ _ ↦ .ok (t.expiring e)) settled t.refilled

/-- The expiration of a transaction that nobody has touched can always be set. -/
theorem expireAt_intact {t : Transaction} (h : t.frame = {}) (e : TimePoint) :
    t.expireAt e = .ok (t.expiring e) := by
  have name : ¬ lit "expiration" = lit "id" := by decide
  obtain ⟨_, _, _, _, _, _, _, frame⟩ := t
  subst h
  simp [expireAt, assigned, Frame.assign?, Frame.blocking?, name, Reading.run, Except.bind,
    settled, expiring, Frame.drained]
  rfl

/-! ## Editing -/

/-- The failure of an edit that what holds the members does not allow. -/
def uneditable : Failure := .foreign .noMember

/-- The position that an index means among `length` members; a negative one counts from the end. -/
def position (index : Int) (length : Nat) : Except Failure Nat :=
  let i := if index < 0 then index + length else index
  if 0 ≤ i ∧ i < length then .ok i.toNat else .error (.foreign .noIndex)

/-- The failure of looking for an integer among names. -/
def unknownIndex (index : Int) : Failure := .foreign (.unknownKey (Text.ofInt index))

/-- The transaction with one more operation. -/
def addOperation (t : Transaction) (e : Entry) : Except Failure Transaction :=
  if t.operationsHolder = .list then .ok { t with operations := t.operations ++ [e] }
  else .error uneditable

def dropOperation (t : Transaction) (index : Int) : Except Failure Transaction :=
  match t.operationsHolder with
  | .list => (position index t.operations.length).map fun i ↦
      { t with operations := t.operations.eraseIdx i }
  | .table => .error (unknownIndex index)
  | _ => .error uneditable

def operationAt (t : Transaction) (index : Int) : Except Failure (Nat × Entry) :=
  if t.operationsHolder = .table then .error (unknownIndex index)
  else
    (position index t.operations.length).bind fun i ↦
      match t.operations[i]? with
      | some e => .ok (i, e)
      | none => .error (.foreign .noIndex)

/-- The transaction with another operation at a place. -/
def setOperation (t : Transaction) (i : Nat) (e : Entry) : Transaction :=
  { t with operations := t.operations.set i e }

def addExtension (t : Transaction) (v : Value) : Except Failure Transaction :=
  if t.extensionsHolder = .list then .ok { t with extensions := t.extensions ++ [v] }
  else .error uneditable

end Transaction

namespace SignedTransaction

/-- The signed transaction with another transaction in it, and the same signatures. -/
def around (t : SignedTransaction) (base : Transaction) : SignedTransaction :=
  { t with toTransaction := base }

def append (t : SignedTransaction) (signatures : List Value) : Except Failure SignedTransaction :=
  if t.signaturesHolder = .list then .ok { t with signatures := t.signatures ++ signatures }
  else .error Transaction.uneditable

def clear (t : SignedTransaction) : Except Failure SignedTransaction :=
  if t.signaturesHolder.canBeEmptied then .ok { t with signatures := [] }
  else .error Transaction.uneditable

/-- A text, as a value. -/
def signatureOf (v : Value) : Reading Value := (Reading.chars v).map .chars

def ofArguments (args : Arguments) (operations : List Entry) : Reading SignedTransaction :=
  (fun base signatures ↦ { base with signatures })
    <$> Transaction.ofArguments args operations
    <*> (Reading.optional [] (Reading.list signatureOf) (args.get? "signatures")).at "signatures"

/-- The checked reading of a value for a field; `none` if there is no field of this name. -/
def readField? (t : SignedTransaction) (name : Text) (v : Value) :
    Option (Reading SignedTransaction) :=
  if name = lit "signatures" then
    some ((Reading.list signatureOf v).map fun signatures ↦
      { t with signatures, signaturesHolder := .list })
  else (t.toTransaction.readField? name v).map fun r ↦ r.map t.around

/-- A field of the signed transaction replaced without check. -/
def force (t : SignedTransaction) (name : Text) (v : Value) : Except Failure SignedTransaction :=
  if name = lit "signatures" then
    let (holder, members) := v.collection?.getD (.single, [])
    .ok { t with signatures := members, signaturesHolder := holder }
  else (t.toTransaction.force name v).map t.around

/-- The signed transaction with all members replaced, which have to include all of its fields. -/
def refilled (t : SignedTransaction) (m : Refill) : Except Failure SignedTransaction :=
  (Transaction.forceAll force m.named t (Transaction.fieldNames ++ [lit "signatures"])).map
    fun t ↦ { t with frame := t.frame.refilled m }

/-- The signed transaction after a checked assignment to a name. -/
def settled (name : Text) (t : SignedTransaction) : Except Failure SignedTransaction :=
  (t.frame.moved name).foldlM (fun t e ↦ t.force e.1 e.2) { t with frame := t.frame.drained }

/-- The signed transaction after an assignment, checked. -/
def assign (t : SignedTransaction) (a : Assignment) : Except Failure SignedTransaction :=
  Transaction.assigned t.frame a (fun frame ↦ { t with frame })
    (fun name v ↦ Transaction.readName name (t.readField? name v)) settled t.refilled

/-- The signed transaction with a value put among its members, unchecked. -/
def put (t : SignedTransaction) (a : Assignment) : Except Failure SignedTransaction :=
  match a with
  | .field name v => t.force name v
  | a => (t.toTransaction.put a).map t.around

end SignedTransaction

end GrapheneSigner
