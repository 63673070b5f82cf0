import GrapheneSigner.Failure.Basic

/-!
# Exported values

The plain form of a value has no typed values in it: account names, assets and time points become
their texts, and an extension becomes a table.  What cannot be printed has no plain form, nor has an
object of a kind of the caller's own.
-/

namespace GrapheneSigner

namespace Value

/-- The failure of a value that has no plain form. -/
def unwritable : Failure := .foreign .unwritable

/-- The plain form of an extension. -/
def extensionTable (e : Extension) : Value := table [(lit "type_id", int e.typeId)]

mutual

def exported : Value → Except Failure Value
  | list vs => (exportedList vs).map list
  | tuple vs => (exportedList vs).map tuple
  | table entries => (exportedEntries entries).map table
  | account a => .ok (chars a.name)
  | asset a => (a.print.mapError fun _ ↦ unwritable).map chars
  | time t => (t.write.mapError fun _ ↦ unwritable).map chars
  | extension e => .ok (extensionTable e)
  | null => .ok null
  | bool b => .ok (bool b)
  | int i => .ok (int i)
  | float x => .ok (float x)
  | chars t => .ok (chars t)
  | bytes b => .ok (bytes b)
  | clock r => .ok (clock r)
  | object _ => .error unwritable

def exportedList : List Value → Except Failure (List Value)
  | [] => .ok []
  | v :: vs =>
    match v.exported, exportedList vs with
    | .ok form, .ok forms => .ok (form :: forms)
    | .error failure, _ => .error failure
    | _, .error failure => .error failure

def exportedEntries : List (Text × Value) → Except Failure (List (Text × Value))
  | [] => .ok []
  | e :: es =>
    match exportedEntry e, exportedEntries es with
    | .ok form, .ok forms => .ok (form :: forms)
    | .error failure, _ => .error failure
    | _, .error failure => .error failure

def exportedEntry : Text × Value → Except Failure (Text × Value)
  | (name, v) =>
    match v.exported with
    | .ok form => .ok (name, form)
    | .error failure => .error failure

end

/-- The plain form of a field for an account name; nothing else can stand there. -/
def exportedAccount : Value → Except Failure Value
  | account a => .ok (chars a.name)
  | _ => .error unwritable

/-- The plain form of a field for a list of account names. -/
def exportedAccounts : Value → Except Failure Value
  | list vs => (vs.mapM exportedAccount).map list
  | v => v.exported

/-- The plain form of a field for an asset: its running text. -/
def exportedAsset (v : Value) : Except Failure Value :=
  (v.plain.mapError fun _ ↦ unwritable).map chars

end Value

end GrapheneSigner
