import GrapheneSigner.Failure.Basic

/-!
# Signature requirements

An operation declares which of its fields hold accounts whose authority has to sign it.  A
declaration is well formed when the field holds one account name, or a list or a tuple of account
names.
-/

namespace GrapheneSigner

/-- One field whose accounts have to sign with the key of a role. -/
structure Requirement where
  role : Role
  field : Text
  value : Value

namespace Value

def account? : Value → Option AccountName
  | account a => some a
  | _ => none

/-- The members of a list of account names. -/
def accounts? : List Value → Option (List AccountName)
  | [] => some []
  | v :: vs =>
    match v.account?, accounts? vs with
    | some a, some as => some (a :: as)
    | _, _ => none

end Value

namespace Requirement

/-- The accounts of a declaration: the one account, or the accounts of the list or the tuple. -/
def accounts? (r : Requirement) : Option (List AccountName) :=
  match r.value with
  | .account a => some [a]
  | .list vs => Value.accounts? vs
  | .tuple vs => Value.accounts? vs
  | _ => none

/-- The fault of a declaration of the operation `title` that is not well formed. -/
def malformed (title : Text) (r : Requirement) : Failure :=
  .ofReport (.ofKind .contract
    (title ++ lit " declares '" ++ r.field ++ lit "' as signature-required but it holds "
      ++ r.value.kindName ++ lit ", not an account name or a list of account names")
    [(lit "operation", .chars title), (lit "field", .chars r.field)])

end Requirement

end GrapheneSigner
