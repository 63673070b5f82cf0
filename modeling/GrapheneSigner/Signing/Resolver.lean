import GrapheneSigner.Key.Source
import GrapheneSigner.Operation.Entry

/-!
# Required keys

The keys that have to sign a list of operations are found by walking the operations in order, the
declarations of each in order, and the accounts of each declaration in order.  The first fault
ends the walk.  A missing key is explained by another fault of the same kind, which a kind that a
key source brings can be an obstacle to.  A key that was found before is not listed again.
-/

namespace GrapheneSigner

namespace Resolver

variable {σ : Type}

/-- What is reported of a key that an operation needs and that is missing. -/
def lack (kind : Kind) (title : Text) (role : Role) (a : AccountName) : Report :=
  .ofKind kind
    (lit "Could not find all required keys to sign the '" ++ title ++ lit "': no " ++ role.name
      ++ lit " key for account '" ++ a.name ++ lit "'")
    [(lit "operation", .chars title), (lit "account", .chars a.name),
      (lit "keyType", .chars role.name)]

/-- A missing key as a fault of the operation that needs it, if its kind lets one be made; other
failures stay as they are. -/
def explain (title : Text) (role : Role) (a : AccountName) (failure : Failure) : Failure :=
  match failure with
  | .own f =>
    if f.report.kind.isMissingKey then
      match f.report.kind.obstacle? with
      | none => failure.causing (lack f.report.kind title role a)
      | some cause => .foreign cause
    else failure
  | .foreign _ => failure

/-- Lists a key unless it is listed. -/
def list (keys : List KeyPair) (k : KeyPair) : List KeyPair :=
  if k ∈ keys then keys else keys ++ [k]

/-- Looks up the keys of accounts, and lists them behind the keys found before. -/
def walkAccounts (lookup : Lookup σ) (title : Text) (role : Role) (keys : List KeyPair) (s : σ) :
    List AccountName → Except Failure (List KeyPair) × σ
  | [] => (.ok keys, s)
  | a :: rest =>
    match lookup role a s with
    | (.ok k, s) => walkAccounts lookup title role (list keys k) s rest
    | (.error failure, s) => (.error (explain title role a failure), s)

/-- Looks up the keys of declarations. -/
def walkRequirements (lookup : Lookup σ) (title : Text) (keys : List KeyPair) (s : σ) :
    List Requirement → Except Failure (List KeyPair) × σ
  | [] => (.ok keys, s)
  | r :: rest =>
    match r.accounts? with
    | none => (.error (r.malformed title), s)
    | some accounts =>
      match walkAccounts lookup title r.role keys s accounts with
      | (.ok keys, s) => walkRequirements lookup title keys s rest
      | (.error failure, s) => (.error failure, s)

/-- What an operation declares, and its title. -/
def declared (e : Entry) : Except Failure (List Requirement × Text) := do
  return (← e.requirements, ← e.title)

def walk (lookup : Lookup σ) (keys : List KeyPair) (s : σ) :
    List Entry → Except Failure (List KeyPair) × σ
  | [] => (.ok keys, s)
  | e :: rest =>
    match declared e with
    | .error failure => (.error failure, s)
    | .ok (requirements, title) =>
      match walkRequirements lookup title keys s requirements with
      | (.ok keys, s) => walk lookup keys s rest
      | (.error failure, s) => (.error failure, s)

/-- The keys that the operations need, each once, in the order in which they are found. -/
def resolve (lookup : Lookup σ) (operations : List Entry) (s : σ) :
    Except Failure (List KeyPair) × σ :=
  walk lookup [] s operations

end Resolver

end GrapheneSigner
