import GrapheneSigner.Key.Pair
import GrapheneSigner.Wire.Writer

/-!
# Compact signatures

A compact signature has 65 bytes: a header, which holds the number of the recovery candidate and
the form of the public point, and the two integers of the signature with 32 bytes each.  The
network only accepts canonical ones, in which some bits and bytes are restricted.
-/

namespace GrapheneSigner

namespace Compact

def size : Nat := 65

/-- What is added to the recovery candidate in the header. -/
def headerBase : Int := 27

/-- What is added for the short form of the public point. -/
def compressedFlag : Int := 4

/-- An integer in 32 bytes, if it fits. -/
def field? (i : Int) : Option Bytes :=
  if 0 ≤ i ∧ i < byteRange 32 then some (bigEndian 32 i.toNat) else none

def encode (id r s : Int) (compressed : Bool) : Except Failure Bytes :=
  let header := headerBase + id + if compressed then compressedFlag else 0
  if 0 ≤ header ∧ header < 256 then
    match field? r, field? s with
    | some r, some s => .ok (UInt8.ofNat header.toNat :: r ++ s)
    | _, _ => .error (.foreign .overflow)
  else .error byteRangeFault

/-- The top bit of a byte is set. -/
def isHigh (b : UInt8) : Bool := b &&& 0x80 != 0

/-- The canonical form: the header is neither zero nor high, neither integer is high, and the last
byte of the first integer is not zero. -/
def isCanonical (b : Bytes) : Bool :=
  b.length == size && !(b.getD 0 0 == 0 || isHigh (b.getD 0 0) || isHigh (b.getD 1 0)
    || b.getD 32 0 == 0 || isHigh (b.getD 33 0))

/-- What a compact signature is made of. -/
structure Parts where
  header : UInt8
  r : Nat
  s : Nat

/-- The parts of a byte string; the empty one has none.  The second integer takes all bytes that
remain, which are 32 in a compact signature. -/
def parts? : Bytes → Option Parts
  | [] => none
  | header :: rest =>
    some ⟨header, ofBigEndian (rest.take 32), ofBigEndian (rest.drop 32)⟩

/-- The recovery candidate that the header names. -/
def Parts.id (p : Parts) : Int := ((p.header.toNat : Int) - headerBase).emod 4

/-- The public point that signed a digest, as a compact signature has it. -/
def recover (p : Parts) (digest : Bytes) : Except Failure (Option Secp256k1.Candidate) :=
  (Secp256k1.recover p.id p.r p.s digest).mapError Secp256k1.RecoveryFault.toFailure

end Compact

namespace KeyPair

/-- No candidate for the public point is the one of the key. -/
def noCandidate (digest : Bytes) : Failure :=
  .ofReport (.ofKind .signing
    (lit "Could not construct a recoverable key. This should never happen.")
    [(lit "digest", .chars (Bytes.hex digest))])

/-- The first of some candidates that is the public point of the key. -/
def findCandidate (k : KeyPair) (r s : Int) (digest : Bytes) : List Nat → Except Failure Nat
  | [] => .error (noCandidate digest)
  | id :: rest =>
    match Secp256k1.recover id r s digest with
    | .error fault => .error fault.toFailure
    | .ok candidate =>
      if candidate.isSome ∧ candidate = Secp256k1.Candidate.ofPoint? k.publicPoint then .ok id
      else k.findCandidate r s digest rest

/-- The recovery candidate of a signature that is the public point of the key. -/
def recoveryId (k : KeyPair) (r s : Int) (digest : Bytes) : Except Failure Nat :=
  k.findCandidate r s digest [0, 1, 2, 3]

def signCompact (k : KeyPair) (digest : Bytes) : Except Failure Bytes := do
  let signature ← k.sign digest
  let id ← k.recoveryId signature.r signature.s digest
  Compact.encode id signature.r signature.s k.compressed

end KeyPair

end GrapheneSigner
