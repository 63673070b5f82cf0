import GrapheneSigner.Value.Shown

/-!
# Failures

A failure is either a fault of the library's own model or a foreign one.  Own faults are reports
that carry a code, a message and details, and each may have another failure as its cause; since a
foreign failure has no further cause, a fault is a chain of reports with possibly one foreign
failure at its end.  Faults are told apart by their kind, and key sources may bring kinds of their
own.
-/

namespace GrapheneSigner

/-- The codes by which callers tell faults apart. -/
inductive Code where
  | ok
  | unknown
  | internal
  | encoding
  | timeout
  | invalidTransaction
  | invalidOperation
  | invalidKey
  | keyNotFound
  deriving DecidableEq

namespace Code

def all : List Code :=
  [.ok, .unknown, .internal, .encoding, .timeout, .invalidTransaction, .invalidOperation,
    .invalidKey, .keyNotFound]

def number : Code → Nat
  | ok => 0
  | unknown => 1
  | internal => 2
  | encoding => 100
  | timeout => 202
  | invalidTransaction => 400
  | invalidOperation => 401
  | invalidKey => 700
  | keyNotFound => 701

def name : Code → Text
  | ok => lit "OK"
  | unknown => lit "UNKNOWN"
  | internal => lit "INTERNAL"
  | encoding => lit "ENCODING_ERROR"
  | timeout => lit "TIMEOUT"
  | invalidTransaction => lit "INVALID_TRANSACTION"
  | invalidOperation => lit "INVALID_OPERATION"
  | invalidKey => lit "INVALID_KEY"
  | keyNotFound => lit "KEY_NOT_FOUND"

def ofNumber? (n : Int) : Option Code := all.find? fun c ↦ (c.number : Int) = n

end Code

/-- The kinds of faults. -/
inductive Kind where
  /-- A fault of no particular kind. -/
  | general
  /-- The transaction violates a precondition of signing. -/
  | transaction
  /-- No key is registered for a required authority. -/
  | missingKey
  /-- The key source did not answer in time. -/
  | lookupTimeout
  /-- A value has no binary form. -/
  | encoding
  /-- Key material is malformed. -/
  | key
  /-- Key material is no key of the curve. -/
  | curveKey
  /-- Signing contradicts itself. -/
  | signing
  /-- An operation declares its requirements wrongly. -/
  | contract
  /-- A special case of `base` with a title and a code of its own, brought by a key source.  Its
  faults are made like those of `base`, from a message, details and a cause, unless there is an
  obstacle to that. -/
  | special (base : Kind) (title : Text) (code : Code) (obstacle : Option Foreign)
  deriving DecidableEq

namespace Kind

/-- The name under which faults of a kind report themselves. -/
def title : Kind → Text
  | general => lit "SteemError"
  | transaction => lit "InvalidTransactionError"
  | missingKey => lit "MissingKeyError"
  | lookupTimeout => lit "KeyStoreTimeoutError"
  | encoding => lit "EncodingError"
  | key => lit "InvalidKeyError"
  | curveKey => lit "Secp256k1Error"
  | signing => lit "SigningFatalError"
  | contract => lit "OperationContractError"
  | special _ title _ _ => title

/-- The code that faults of a kind have; general faults choose theirs. -/
def code : Kind → Code
  | general => .unknown
  | transaction => .invalidTransaction
  | missingKey => .keyNotFound
  | lookupTimeout => .timeout
  | encoding => .encoding
  | key => .invalidKey
  | curveKey => .invalidKey
  | signing => .internal
  | contract => .invalidOperation
  | special _ _ code _ => code

/-- The kinds that a kind is a special case of, itself first; the general one comes last for all. -/
def chain : Kind → List Kind
  | special base title code obstacle => special base title code obstacle :: base.chain
  | lookupTimeout => [lookupTimeout, missingKey, general]
  | curveKey => [curveKey, key, general]
  | general => [general]
  | k => [k, general]

/-- Faults of kind `k` count as faults of kind `other`. -/
def isA (k other : Kind) : Bool := k.chain.contains other

def isMissingKey (k : Kind) : Bool := k.isA missingKey

/-- What making a fault of the kind from a message, details and a cause fails with. -/
def obstacle? : Kind → Option Foreign
  | special _ _ _ obstacle => obstacle
  | _ => none

end Kind

/-- One report of a chain. -/
structure Report where
  kind : Kind
  code : Code
  message : Text
  details : List (Text × Value)
  /-- The wire field that could not be encoded, for encoding faults that name one. -/
  field : Option Text

namespace Report

/-- A report whose code is the one of its kind. -/
def ofKind (kind : Kind) (message : Text) (details : List (Text × Value)) : Report :=
  { kind, code := kind.code, message, details, field := none }

/-- Adds an entry unless there is one of this name. -/
def withDefault (details : List (Text × Value)) (name : Text) (value : Value) :
    List (Text × Value) :=
  if details.any fun e ↦ e.1 = name then details else details ++ [(name, value)]

/-- A report on a field that has no binary form; the field is among its details. -/
def encoding (message : Text) (field : Option Text) (details : List (Text × Value)) : Report :=
  { ofKind .encoding message
      (match field with
        | none => details
        | some name => withDefault details (lit "field") (.chars name)) with
    field }

def write (r : Report) : Except Foreign Text :=
  let head := lit "[" ++ r.code.name ++ lit "] " ++ r.message
  if r.details.isEmpty then .ok head
  else (Value.table r.details).shown.map fun details ↦ head ++ lit " | Details: " ++ details

end Report

/-- A report with the chain of its causes. -/
structure Fault where
  report : Report
  /-- The reports that caused it, the nearest one first. -/
  causes : List Report
  /-- The foreign failure at the end of the chain. -/
  root : Option Foreign

/-- Anything that can go wrong. -/
inductive Failure where
  | own (fault : Fault)
  | foreign (cause : Foreign)

namespace Fault

def ofReport (r : Report) : Fault := ⟨r, [], none⟩

def cause? (f : Fault) : Option Failure :=
  match f.causes with
  | r :: rs => some (.own ⟨r, rs, f.root⟩)
  | [] => f.root.map .foreign

def writeChain : List Report → Option Foreign → Except Foreign Text
  | [], none => .ok []
  | [], some foreign => .ok foreign.message
  | [r], none => r.write
  | r :: rs, root => do
    return (← r.write) ++ lit " | Caused by: " ++ (← writeChain rs root)

/-- The text of a fault: every report of the chain, and the foreign failure at its end. -/
def write (f : Fault) : Except Foreign Text := writeChain (f.report :: f.causes) f.root

/-- Should never happen: operators want to know. -/
def isInternal (f : Fault) : Bool := f.report.code == .internal

def toTable (f : Fault) : Except Foreign (List (Text × Value)) := do
  let cause ← match f.causes, f.root with
    | [], none => pure []
    | causes, root => pure [(lit "cause", .chars (← writeChain causes root))]
  return [(lit "error", .chars f.report.kind.title), (lit "code", .int f.report.code.number),
      (lit "message", .chars f.report.message)]
    ++ (if f.report.details.isEmpty then [] else [(lit "details", .table f.report.details)])
    ++ cause

end Fault

namespace Failure

/-- A fault with `self` as its cause. -/
def causing (self : Failure) (r : Report) : Failure :=
  match self with
  | own f => own ⟨r, f.report :: f.causes, f.root⟩
  | foreign cause => own ⟨r, [], some cause⟩

def ofReport (r : Report) : Failure := own (.ofReport r)

def badValue (message : Text) : Failure := foreign (.badValue message)

/-- The failure of something that its own message would show.  What cannot be shown has no message,
and fails with what keeps it from being shown. -/
def showing (shown : Except Foreign Text) (failure : Text → Failure) : Failure :=
  match shown with
  | .ok text => failure text
  | .error cause => foreign cause

/-- Only a key source that did not answer in time is worth another try. -/
def isRetryable : Failure → Bool
  | own f => f.report.code == .timeout
  | foreign _ => false

def isOwn : Failure → Bool
  | own _ => true
  | foreign _ => false

end Failure

/-- The time stamp of a time point, as a step that can fail. -/
def TimePoint.stamp (t : TimePoint) : Except Failure Text :=
  t.write.mapError fun fault ↦ .foreign fault.toForeign

end GrapheneSigner
