import GrapheneSigner.Crypto.Sha256

/-!
# Keyed hashing

The keyed hash of a message is the hash of the outer key and the hash of the inner key and the
message, where both keys are the given key on 64 bytes, masked.
-/

namespace GrapheneSigner

namespace Hmac

/-- A key on exactly 64 bytes; a longer one is hashed first. -/
def block (key : Bytes) : Bytes :=
  let short := if 64 < key.length then sha256 key else key
  short ++ List.replicate (64 - short.length) 0

/-- A key with every byte masked. -/
def masked (mask : UInt8) (key : Bytes) : Bytes := key.map (· ^^^ mask)

end Hmac

def hmac (key message : Bytes) : Bytes :=
  let key := Hmac.block key
  sha256 (Hmac.masked 0x5C key ++ sha256 (Hmac.masked 0x36 key ++ message))

@[simp]
theorem length_hmac (key message : Bytes) : (hmac key message).length = 32 := by
  simp [hmac]

end GrapheneSigner
