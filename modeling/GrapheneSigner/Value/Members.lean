import GrapheneSigner.Value.Basic

/-!
# Members of values

Some values can be gone through member by member: lists and tuples, tables by their names, texts
by code point, byte strings by byte, and typed values by field, each a pair of its name and its
value.  What else can be done with such a value depends on what holds the members.
-/

namespace GrapheneSigner

/-- What holds members. -/
inductive Holder where
  /-- A list, which can be edited. -/
  | list
  /-- A table, which can be emptied. -/
  | table
  /-- A tuple, a text or a byte string, which stays as it is. -/
  | row
  /-- A typed value, which has no size. -/
  | record
  /-- A value without members. -/
  | single
  deriving DecidableEq

namespace Holder

def hasSize : Holder → Bool
  | list | table | row => true
  | record | single => false

/-- The members can be removed all at once. -/
def canBeEmptied (h : Holder) : Bool := h == .list || h == .table

end Holder

/-- The kinds of typed values that have fields. -/
inductive RecordKind where
  | account
  | asset
  | time
  | extension
  deriving DecidableEq

namespace Value

/-- The kind and the fields of a typed value. -/
def record? : Value → Option (RecordKind × List (Text × Value))
  | account a => some (.account, [(lit "name", chars a.name)])
  | asset a => some (.asset, [(lit "amount", int a.amount), (lit "symbol", chars a.symbol.name)])
  | time t => some (.time, [(lit "seconds", int t.seconds)])
  | extension e => some (.extension, [(lit "type_id", int e.typeId)])
  | _ => none

/-- The members of a value, and what holds them. -/
def collection? (v : Value) : Option (Holder × List Value) :=
  match v with
  | list vs => some (.list, vs)
  | tuple vs => some (.row, vs)
  | table entries => some (.table, entries.map fun e ↦ chars e.1)
  | chars t => some (.row, t.map fun c ↦ chars [c])
  | bytes b => some (.row, b.map fun x ↦ int x.toNat)
  | v => v.record?.map fun r ↦ (.record, r.2.map fun e ↦ list [chars e.1, e.2])

/-- The members of a value that can be counted, and what holds them. -/
def countable? (v : Value) : Option (Holder × List Value) :=
  v.collection?.filter fun c ↦ c.1.hasSize

end Value

end GrapheneSigner
