import GrapheneSigner.Network.Config
import GrapheneSigner.Signing.Compact
import GrapheneSigner.Signing.Resolver
import GrapheneSigner.Transaction.Intake

/-!
# Signing

A transaction is signed with every key that its operations need, and all keys sign the same
digest.  If one of the signatures is not canonical, the transaction expires one second later,
which changes the digest, and all keys sign again.  Whether it succeeds or not, signing gives the
transaction as it leaves it, since the expiration may have been changed before a failure.
-/

namespace GrapheneSigner

namespace Transaction

/-- A transaction that violates a precondition of signing. -/
def refused (message : Text) (details : List (Text × Value)) : Failure :=
  .ofReport (.ofKind .transaction message details)

/-- A transaction that can never be signed is refused: it has no operations or does not refer to
a block. -/
def checkPreconditions (t : Transaction) : Except Failure Unit :=
  if t.operations.isEmpty then
    .error (refused (lit "At least one operation is required to sign the transaction.") [])
  else if t.refBlockNum.isZero then
    .error (refused (lit "The ref_block_num field needs to be set.") [])
  else if t.refBlockPrefix.isZero then
    .error (refused (lit "The ref_block_prefix field needs to be set.") [])
  else .ok ()

/-- The latest expiration that the network accepts. -/
def latest (config : Config) : Except Failure TimePoint := do
  let now ← config.time
  match Duration.ofSeconds? config.maxExpirationOffset with
  | some window => now.addDuration window
  | none => .error (.foreign .overflow)

/-- The message about an expiration that is too late. -/
def lateMessage (stamp : Text) : Text :=
  lit "The expiration date " ++ stamp ++ lit " of this transaction is too far in the future and "
    ++ lit "may not be accepted by the node."

/-- The outcome of a step that changes a transaction: what it leaves, its warnings, and its
result. -/
structure Pass (α : Type) where
  left : Transaction
  warnings : List Text
  result : Except Failure α

/-- Sets an expiration that is not set, and checks one that is.  The new expiration is set before
its time stamp is asked for, which may fail. -/
def prepareExpiration (t : Transaction) (config : Config) : Pass Unit :=
  match latest config with
  | .error failure => ⟨t, [], .error failure⟩
  | .ok latest =>
    if !t.expiration.isSet then
      match latest.addSeconds (-Config.safetyMargin) with
      | .error failure => ⟨t, [], .error failure⟩
      | .ok e =>
        match t.expireAt e with
        | .error failure => ⟨t, [], .error failure⟩
        | .ok left => ⟨left, [], e.stamp.map fun _ ↦ ()⟩
    else if latest.seconds < t.expiration.seconds then
      match t.expiration.stamp with
      | .error failure => ⟨t, [], .error failure⟩
      | .ok stamp =>
        if config.strictExpiration then
          match latest.stamp with
          | .error failure => ⟨t, [], .error failure⟩
          | .ok latest => ⟨t, [], .error (refused (lateMessage stamp)
              [(lit "expiration", .chars stamp), (lit "latest", .chars latest)])⟩
        else ⟨t, [lateMessage stamp], .ok ()⟩
    else ⟨t, [], .ok ()⟩

/-- The signatures of all keys over a digest, or `none` if one of them is not canonical; the keys
after that one do not sign. -/
def signAll (digest : Bytes) : List KeyPair → Except Failure (Option (List Bytes))
  | [] => .ok (some [])
  | k :: rest =>
    match k.signCompact digest with
    | .error failure => .error failure
    | .ok signature =>
      if Compact.isCanonical signature then
        (signAll digest rest).map fun more ↦ more.map (signature :: ·)
      else .ok none

def attempt (t : Transaction) (chain : Bytes) (keys : List KeyPair) :
    Except Failure (Option (List Bytes)) := do
  signAll (← t.digest chain) keys

def exhausted (attempts : Nat) : Failure :=
  .ofReport (.ofKind .signing
    (lit "No canonical signature found within " ++ Text.ofNat attempts ++ lit " attempts")
    [(lit "attempts", .int attempts)])

/-- Attempts canonical signatures, expiring one second later after each attempt that failed;
`remaining` of all `attempts` are left. -/
def search (chain : Bytes) (keys : List KeyPair) (attempts : Nat) (t : Transaction) :
    Nat → Transaction × Except Failure (List Bytes)
  | 0 => (t, .error (exhausted attempts))
  | remaining + 1 =>
    match t.attempt chain keys with
    | .error failure => (t, .error failure)
    | .ok (some signatures) => (t, .ok signatures)
    | .ok none =>
      match t.expiration.addSeconds 1 with
      | .error failure => (t, .error failure)
      | .ok e =>
        match t.expireAt e, e.stamp with
        | .error failure, _ => (t, .error failure)
        | .ok later, .error failure => (later, .error failure)
        | .ok later, .ok _ => search chain keys attempts later remaining

/-- The chain that a pass signs for: the given one, or the one of the settings. -/
def chainOf (config : Config) (chainId : Value) : Except Failure Bytes :=
  match chainId with
  | .null => ChainId.bytesOf (.chars config.chainId)
  | v => ChainId.bytesOf v

/-- Signs a transaction: checks it, looks up the keys, sets the expiration, and searches for
canonical signatures.  The second component is the state of the key source. -/
def signPass {σ : Type} (t : Transaction) (lookup : Lookup σ) (config : Config) (chainId : Value)
    (s : σ) : Pass (List Bytes) × σ :=
  match t.checkPreconditions with
  | .error failure => (⟨t, [], .error failure⟩, s)
  | .ok () =>
    match Resolver.resolve lookup t.operations s with
    | (.error failure, s) => (⟨t, [], .error failure⟩, s)
    | (.ok keys, s) =>
      match chainOf config chainId with
      | .error failure => (⟨t, [], .error failure⟩, s)
      | .ok chain =>
        let prepared := t.prepareExpiration config
        match prepared.result with
        | .error failure => (⟨prepared.left, prepared.warnings, .error failure⟩, s)
        | .ok () =>
          let (left, result) := search chain keys config.maxSigningAttempts prepared.left
            config.maxSigningAttempts
          (⟨left, prepared.warnings, result⟩, s)

end Transaction

namespace SignedTransaction

/-- The outcome of signing: the transaction that it leaves, its warnings, and the signatures that
were appended. -/
structure Signing where
  left : SignedTransaction
  warnings : List Text
  result : Except Failure (List Text)

/-- Signs a transaction and appends the signatures in hexadecimal digits. -/
def sign {σ : Type} (t : SignedTransaction) (lookup : Lookup σ) (config : Config) (chainId : Value)
    (s : σ) : Signing × σ :=
  let (pass, s) := t.toTransaction.signPass lookup config chainId s
  let left := t.around pass.left
  match pass.result with
  | .error failure => (⟨left, pass.warnings, .error failure⟩, s)
  | .ok signatures =>
    let texts := signatures.map Bytes.hex
    match left.append (texts.map .chars) with
    | .error failure => (⟨left, pass.warnings, .error failure⟩, s)
    | .ok signed => (⟨signed, pass.warnings, .ok texts⟩, s)

def requiredKeys {σ : Type} (t : SignedTransaction) (lookup : Lookup σ) (s : σ) :
    Except Failure (List KeyPair) × σ :=
  Resolver.resolve lookup t.operations s

/-- The wire form of the transaction, only if all keys that have to sign it are there. -/
def serializeChecked {σ : Type} (t : SignedTransaction) (lookup : Lookup σ) (chainId : Value)
    (s : σ) : Except Failure Bytes × σ :=
  match t.requiredKeys lookup s with
  | (.ok _, s) => (t.toTransaction.serialize chainId, s)
  | (.error failure, s) => (.error failure, s)

end SignedTransaction

end GrapheneSigner
