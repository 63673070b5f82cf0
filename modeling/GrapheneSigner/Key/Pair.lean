import GrapheneSigner.Failure.Basic
import GrapheneSigner.Secp256k1.Signature
import GrapheneSigner.Text.Base58
import GrapheneSigner.Text.Hex

/-!
# Key pairs

A key pair is a nonzero scalar below the order of the curve, together with the choice between the
short and the long form of its public point.  Secrets come as bytes, as hexadecimal digits, or in
the wallet form: a version byte, the secret and a checksum, in base 58.
-/

namespace GrapheneSigner

namespace Secp256k1

/-- The bytes of a point: its x coordinate behind a byte for the parity of y, or both coordinates
behind the byte 4. -/
def Point.encode (compressed : Bool) : Point → Bytes
  | .identity => [0]
  | .finite x y =>
    if compressed then UInt8.ofNat (2 + y.val % 2) :: bigEndian 32 x.val
    else 4 :: bigEndian 32 x.val ++ bigEndian 32 y.val

/-- The failure of a recovery. -/
def RecoveryFault.toFailure (fault : RecoveryFault) : Failure := .badValue fault.message

end Secp256k1

/-- A secret and the form of its public point. -/
structure KeyPair where
  secret : Nat
  compressed : Bool
  secret_pos : 0 < secret
  secret_lt : secret < Secp256k1.order
  deriving DecidableEq

namespace KeyPair

/-- A fault of key material. -/
def fault (message : Text) : Report := .ofKind .curveKey message []

def ofBytes (b : Bytes) (compressed : Bool) : Except Failure KeyPair :=
  if b.length ≠ 32 then
    .error (.ofReport (fault (lit "Private key must be 32 bytes, got " ++ Text.ofNat b.length)))
  else
    let secret := ofBigEndian b
    if h : 0 < secret ∧ secret < Secp256k1.order then .ok ⟨secret, compressed, h.1, h.2⟩
    else .error (.ofReport (fault (lit "Private key is outside the secp256k1 scalar range")))

def toBytes (k : KeyPair) : Bytes := bigEndian 32 k.secret

def ofHex (v : Value) (compressed : Bool) : Except Failure KeyPair :=
  match v with
  | .chars t =>
    match Hex.read t with
    | .ok b => ofBytes b compressed
    | .error pos =>
      .error ((Failure.badValue (Hex.faultMessage pos)).causing
        (fault (lit "Invalid hex string: " ++ Hex.faultMessage pos)))
  | _ => .error (.foreign (.wrongKind []))

def publicPoint (k : KeyPair) : Secp256k1.Point :=
  Secp256k1.Point.generator.multiple ⟨k.secret, k.secret_lt⟩

def publicBytes (k : KeyPair) : Bytes := k.publicPoint.encode k.compressed

/-- A key pair in running text: the beginning of its public point, and nothing of its secret. -/
def plain (k : KeyPair) : Text :=
  lit "Secp256k1KeyPair(public=" ++ (Bytes.hex k.publicBytes).take 16 ++ lit "...)"

/-- Why a digest cannot be signed: it has a wrong length. -/
def misfit (digest : Bytes) : Failure :=
  .ofReport (fault (lit "Digest must be 32 bytes, got " ++ Text.ofNat digest.length))

/-- The failure of a search for a nonce. -/
def noNonce : Failure := .ofReport (.ofKind .signing (lit "No nonce signs the digest") [])

def sign (k : KeyPair) (digest : Bytes) : Except Failure Secp256k1.Signature :=
  if digest.length ≠ 32 then .error (misfit digest)
  else
    match Secp256k1.Signature.make? k.secret digest with
    | some signature => .ok signature
    | none => .error noNonce

end KeyPair

end GrapheneSigner
