import GrapheneSigner.Collection.Ledger
import GrapheneSigner.Intake.Model
import GrapheneSigner.Key.Wallet

/-!
# Key stores

A key store is a ledger of accounts, and each account has a ledger of roles with their keys.  An
account can be registered without keys.  Every change returns the store after it together with its
result, since a change that fails half way leaves its first half done.
-/

namespace GrapheneSigner

/-- Key material that is handed to a store: a key pair, or the wallet form of a secret. -/
inductive KeyMaterial where
  | pair (k : KeyPair)
  | wallet (t : Text)

namespace KeyMaterial

/-- The key pair of key material; imported keys have the short form of public points. -/
def keyPair (m : KeyMaterial) : Except Failure KeyPair :=
  match m with
  | pair k => .ok k
  | wallet t => KeyPair.ofWallet (.chars t) true

end KeyMaterial

/-- Accounts with their keys, in the order of registration. -/
structure KeyStore where
  accounts : Ledger AccountName (Ledger Role KeyPair)

namespace KeyStore

def empty : KeyStore := ⟨[]⟩

/-- The account that a caller names, by itself or by its text. -/
def accountOf (v : Value) : Except Failure AccountName := AccountName.ofValue v

def names (s : KeyStore) : List AccountName := s.accounts.keys

/-- The keys of an account; an account that is not registered has none. -/
def keysOf (s : KeyStore) (a : AccountName) : Ledger Role KeyPair := (s.accounts.get? a).getD []

def register (s : KeyStore) (a : AccountName) : KeyStore := ⟨s.accounts.put a (s.keysOf a)⟩

def setKey (s : KeyStore) (a : AccountName) (role : Role) (k : KeyPair) : KeyStore :=
  ⟨s.accounts.put a ((s.keysOf a).put role k)⟩

def importKey (s : KeyStore) (a : AccountName) (role : Role) (m : KeyMaterial) :
    KeyStore × Except Failure Unit :=
  match m.keyPair with
  | .ok k => (s.setKey a role k, .ok ())
  | .error failure => (s, .error failure)

/-- Imports keys one by one, up to the first failure. -/
def importKeys (s : KeyStore) (a : AccountName) :
    Ledger Role KeyMaterial → KeyStore × Except Failure Unit
  | [] => (s, .ok ())
  | (role, m) :: rest =>
    match s.importKey a role m with
    | (s, .ok ()) => s.importKeys a rest
    | (s, .error failure) => (s, .error failure)

def addAccount (s : KeyStore) (account : Value) (keys : Ledger Role KeyMaterial) :
    KeyStore × Except Failure Unit :=
  match accountOf account with
  | .ok a => (s.register a).importKeys a keys
  | .error failure => (s, .error failure)

def addKey (s : KeyStore) (account : Value) (role : Role) (m : KeyMaterial) :
    KeyStore × Except Failure Unit :=
  match accountOf account with
  | .ok a => s.importKey a role m
  | .error failure => (s, .error failure)

/-- Removes an account with its keys; the result says whether it was there. -/
def remove (s : KeyStore) (account : Value) : KeyStore × Except Failure Bool :=
  match accountOf account with
  | .ok a =>
    if (s.accounts.get? a).isSome then (⟨s.accounts.erase a⟩, .ok true) else (s, .ok false)
  | .error failure => (s, .error failure)

/-- The fault of a lookup without result. -/
def missing (message : Text) (role : Role) (a : AccountName) : Failure :=
  .ofReport (.ofKind .missingKey message
    [(lit "account", .chars a.name), (lit "keyType", .chars role.name)])

/-- The key of an account for a role. -/
def resolve (s : KeyStore) (role : Role) (a : AccountName) : Except Failure KeyPair :=
  match s.accounts.get? a with
  | none => .error (missing
      (lit "The account '" ++ a.name ++ lit "' has not been added to the key store") role a)
  | some keys =>
    match keys.get? role with
    | some k => .ok k
    | none => .error (missing
        (lit "No " ++ role.name ++ lit " key stored for account '" ++ a.name ++ lit "'") role a)

/-- The key of an account that is named by itself or by its text. -/
def keyFor (s : KeyStore) (role : Role) (account : Value) : Except Failure KeyPair := do
  s.resolve role (← accountOf account)

/-- A store in running text. -/
def plain (s : KeyStore) : Text :=
  lit "MemoryKeyStore(" ++ Text.ofNat s.accounts.length ++ lit " accounts)"

/-- A store as messages show it. -/
def shown (s : KeyStore) : Text :=
  lit "MemoryKeyStore(count=" ++ Text.ofNat s.accounts.length ++ lit ")"

end KeyStore

end GrapheneSigner
