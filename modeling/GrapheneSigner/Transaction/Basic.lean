import GrapheneSigner.Crypto.Sha256
import GrapheneSigner.Network.ChainId
import GrapheneSigner.Operation.Entry
import GrapheneSigner.Value.Members

/-!
# Transactions

A transaction refers to a recent block, expires, and has operations and extensions.  The fields
that refer to the block are natural numbers when the transaction is built, but they may be
replaced without check, and so they are values; likewise operations, extensions and signatures are
members of lists, unless something else that has members was put in their place.  A signed
transaction has room for signatures.  `Contents` is what a transaction holds whose fields are as
they were built.
-/

namespace GrapheneSigner

/-- A transaction without room for signatures. -/
structure Transaction where
  refBlockNum : Value
  refBlockPrefix : Value
  expiration : TimePoint
  operations : List Entry
  extensions : List Value
  /-- What holds the operations. -/
  operationsHolder : Holder := .list
  /-- What holds the extensions. -/
  extensionsHolder : Holder := .list
  frame : Frame := {}

/-- A transaction with its signatures, which are texts unless they were put there unchecked. -/
structure SignedTransaction extends Transaction where
  signatures : List Value
  /-- What holds the signatures. -/
  signaturesHolder : Holder := .list

/-- The checked contents of a transaction. -/
structure Contents where
  refBlockNum : Nat
  refBlockPrefix : Nat
  expiration : TimePoint
  operations : List Operation
  extensions : List Extension
  deriving DecidableEq

namespace Contents

def toTransaction (c : Contents) : Transaction :=
  { refBlockNum := .int c.refBlockNum, refBlockPrefix := .int c.refBlockPrefix
    expiration := c.expiration, operations := c.operations.map Operation.toEntry
    extensions := c.extensions.map .extension }

end Contents

namespace Transaction

def expiring (t : Transaction) (e : TimePoint) : Transaction := { t with expiration := e }

/-! ## The wire form -/

/-- The call of the block prefix, of which only 32 bits are written. -/
def prefixCall (v : Value) : Except Failure Call :=
  let field := some (lit "ref_block_prefix")
  match v.integer? with
  | some i => .ok (.fixed .u32 (.int (i.emod (byteRange 4))) field)
  | none => .error (encodingFault (lit "ref_block_prefix must be an integer") field)

/-- The calls before the operations. -/
def header (t : Transaction) : Writing :=
  [.ok (.fixed .u16 t.refBlockNum (some (lit "ref_block_num"))), prefixCall t.refBlockPrefix,
    .ok (.fixed .u32 (.int t.expiration.seconds) (some (lit "expiration"))),
    .ok (.varint (.int t.operations.length) (some (lit "operations")))]

/-- The path of a field of operation number `i`. -/
def operationPath (i : Nat) (field : Option Text) : Text :=
  lit "operations[" ++ Text.ofNat i ++ lit "]"
    ++ (match field with
      | some (c :: rest) => lit "." ++ (c :: rest)
      | _ => [])

/-- A failure of operation number `i`: encoding faults name the operation. -/
def operationFailure (i : Nat) (e : Entry) (failure : Failure) : Failure :=
  match failure with
  | .own f =>
    if f.report.kind = .encoding then
      match e.title with
      | .ok title =>
        failure.causing (.encoding
          (lit "Operation #" ++ Text.ofNat i ++ lit " (" ++ title ++ lit ") cannot be encoded: "
            ++ f.report.message)
          (some (operationPath i f.report.field)) [])
      | .error failure => failure
    else failure
  | .foreign _ => failure

/-- The bytes of operations, the first of which has number `i`. -/
def encodeOperations (i : Nat) : List Entry → Except Failure Bytes
  | [] => .ok []
  | e :: rest =>
    match e.writing.encode with
    | .error failure => .error (operationFailure i e failure)
    | .ok bytes =>
      match encodeOperations (i + 1) rest with
      | .ok more => .ok (bytes ++ more)
      | .error failure => .error failure

/-- The call of the number of extensions. -/
def extensionsCall (t : Transaction) (field : Text) : Except Failure Call :=
  if t.extensionsHolder.hasSize then .ok (.varint (.int t.extensions.length) (some field))
  else .error (.foreign (.wrongKind []))

/-- The calls behind the operations. -/
def trailer (t : Transaction) : Writing :=
  t.extensionsCall (lit "extensions")
    :: t.extensions.flatMap fun v ↦ v.writing (some (lit "extensions"))

/-- What spoils the wire form of a transaction that has one. -/
def spoilt? (t : Transaction) : Option Failure := t.operations.findSome? fun e ↦ e.writing.spoilt?

/-- The wire form of a transaction behind the bytes of a chain. -/
def encode (t : Transaction) (chain : Bytes) : Except Failure Bytes := do
  let header ← t.header.encode
  let operations ← encodeOperations 0 t.operations
  let trailer ← t.trailer.encode
  match t.spoilt? with
  | some failure => .error failure
  | none => return chain ++ header ++ operations ++ trailer

/-- The wire form of a transaction behind a chain id. -/
def serialize (t : Transaction) (chainId : Value) : Except Failure Bytes := do
  t.encode (← ChainId.bytesOf chainId)

/-- What is signed: the digest of the wire form behind the chain. -/
def digest (t : Transaction) (chain : Bytes) : Except Failure Bytes := do
  return sha256 (← t.encode chain)

/-- The digest behind a chain id. -/
def digestFor (t : Transaction) (chainId : Value) : Except Failure Bytes := do
  return sha256 (← t.serialize chainId)

/-- The name of a transaction: the beginning of the digest of its wire form. -/
def id (t : Transaction) : Except Failure Text := do
  return Bytes.hex ((sha256 (← t.encode [])).take 20)

/-! ## The table form -/

/-- The plain form of an extension; values without type have none. -/
def extensionForm (v : Value) : Except Failure Value :=
  match v.collection? with
  | some (.record, _) => v.exported
  | _ => .error (.foreign .noMember)

/-- The transaction as the network's interface shows it. -/
def toTable (t : Transaction) : Except Failure (List (Text × Value)) := do
  let expiration ← t.expiration.stamp
  let operations ← t.operations.mapM Entry.toPair
  let extensions ← t.extensions.mapM extensionForm
  return [(lit "ref_block_num", t.refBlockNum), (lit "ref_block_prefix", t.refBlockPrefix),
    (lit "expiration", .chars expiration), (lit "operations", .list operations),
    (lit "extensions", .list extensions)]

end Transaction

namespace SignedTransaction

/-- The signed transaction as the network's interface shows it. -/
def toTable (t : SignedTransaction) : Except Failure (List (Text × Value)) := do
  return (← t.toTransaction.toTable) ++ [(lit "signatures", .list t.signatures)]

end SignedTransaction

end GrapheneSigner
