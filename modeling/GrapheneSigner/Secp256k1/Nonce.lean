import GrapheneSigner.Crypto.Hmac
import GrapheneSigner.Secp256k1.Field

/-!
# Deterministic nonces

Signing needs a nonce that nobody can guess and that differs for every digest.  It is drawn from a
keyed generator which is seeded with the secret and the digest, so that equal inputs give equal
nonces.  The generator goes on to the next draw when a draw is out of range or does not lead to a
signature.
-/

namespace GrapheneSigner.Secp256k1

namespace Nonce

structure Generator where
  key : Bytes
  value : Bytes

namespace Generator

/-- Takes more material into the key, and renews the value. -/
def mix (g : Generator) (material : Bytes) : Generator :=
  let key := hmac g.key (g.value ++ material)
  ⟨key, hmac key g.value⟩

/-- The generator seeded with 64 bytes. -/
def seeded (seed : Bytes) : Generator :=
  let start : Generator := ⟨List.replicate 32 0, List.replicate 32 1⟩
  (start.mix (0 :: seed)).mix (1 :: seed)

def draw (g : Generator) : Nat × Generator :=
  let value := hmac g.key g.value
  (ofBigEndian value, ⟨g.key, value⟩)

end Generator

/-- The seed of a secret and a digest of 32 bytes, which is taken modulo the order. -/
def seed (secret : Nat) (digest : Bytes) : Bytes :=
  bigEndian 32 secret ++ bigEndian 32 (ofBigEndian digest % order)

/-- The result for the first draw that is in range and accepted, among the first `fuel` draws. -/
def search {α : Type} (accept : Nat → Option α) : Nat → Generator → Option α
  | 0, _ => none
  | fuel + 1, g =>
    let (k, g) := g.draw
    let found := if 0 < k ∧ k < order then accept k else none
    match found with
    | some a => some a
    | none => search accept fuel (g.mix [0])

/-- How many draws are tried.  A draw fails with a probability of about 2 to the power -128. -/
def attempts : Nat := 64

/-- The result for the first nonce that is accepted.  The generator of RFC 6979 goes on for ever;
here it is given up after `attempts` draws, and the nonces 1 and 2 are left, one of which every
digest accepts.  This end is no part of RFC 6979 nor of the `ecdsa` package that draws nonces by it.
It only makes the function total, and nobody knows of an input that leads there. -/
def first {α : Type} (accept : Nat → Option α) (secret : Nat) (digest : Bytes) : Option α :=
  search accept attempts (.seeded (seed secret digest)) <|> accept 1 <|> accept 2

end Nonce

end GrapheneSigner.Secp256k1
