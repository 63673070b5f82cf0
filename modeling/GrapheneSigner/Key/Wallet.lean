import GrapheneSigner.Key.Pair
import GrapheneSigner.Text.Blank

/-!
# The wallet form of secrets

Wallets write a secret in base 58: the version byte 0x80, the 32 bytes of the secret, possibly the
byte 1, and four bytes of the doubly hashed rest as a checksum.  Reading ignores blanks at the end
and does not let the byte 1 choose the form of the public point; writing leaves that byte out.
-/

namespace GrapheneSigner

namespace Wallet

def checksum (payload : Bytes) : Bytes := (sha256 (sha256 payload)).take 4

/-- A payload with its checksum, in base 58. -/
def write (payload : Bytes) : Text := Base58.encode (payload ++ checksum payload)

/-- The payload of a text in base 58, if its checksum is right. -/
def read? (t : Text) : Option Bytes :=
  match Base58.decode? t with
  | some b =>
    let payload := b.take (b.length - 4)
    if b.drop (b.length - 4) = checksum payload then some payload else none
  | none => none

/-- The byte in front of a secret. -/
def version : UInt8 := 0x80

/-- What keeps a text from having a payload: its first code point that is no digit of base 58, or
else its checksum. -/
def defect (t : Text) : Text :=
  match t.find? fun c ↦ (Base58.value? c).isNone with
  | some c => lit "Invalid character " ++ Text.quoted [c]
  | none => lit "Invalid checksum"

/-- The fault of a text without payload. -/
def unreadable (cause : Foreign) : Failure :=
  (Failure.foreign cause).causing (KeyPair.fault (lit "Invalid WIF checksum"))

def keyOf (payload : Bytes) (compressed : Bool) : Except Failure KeyPair :=
  if payload.length ≠ 33 ∧ payload.length ≠ 34 then
    .error (.ofReport (KeyPair.fault
      (lit "WIF payload has unexpected length " ++ Text.ofNat payload.length)))
  else
    match payload with
    | [] => .error (.foreign .noIndex)
    | first :: secret =>
      if first ≠ version then
        .error (.ofReport (KeyPair.fault
          (lit "Unexpected WIF version byte 0x" ++ Bytes.hex [first])))
      else if secret.length = 33 ∧ secret.getLast? = some 1 then
        KeyPair.ofBytes secret.dropLast compressed
      else KeyPair.ofBytes secret compressed

/-- The key pair of a text, whose blanks at the end have been dropped. -/
def keyOfText (t : Text) (compressed : Bool) : Except Failure KeyPair :=
  match read? t with
  | some payload => keyOf payload compressed
  | none => .error (unreadable (.badValue (defect t)))

end Wallet

namespace KeyPair

def ofWallet (v : Value) (compressed : Bool) : Except Failure KeyPair :=
  match v with
  | .chars t =>
    let t := t.trimEnd CodePoint.isBlank
    if t.all fun c ↦ c.val < 0x80 then Wallet.keyOfText t compressed
    else .error (Wallet.unreadable .unencodable)
  | .bytes b =>
    let t : Text := b.map fun x ↦ CodePoint.ofNat x.toNat
    Wallet.keyOfText (t.trimEnd CodePoint.isAsciiBlank) compressed
  | _ => .error (.foreign .noMember)

def toWallet (k : KeyPair) : Text := Wallet.write (Wallet.version :: k.toBytes)

end KeyPair

end GrapheneSigner
