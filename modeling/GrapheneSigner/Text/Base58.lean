import GrapheneSigner.Wire.Integer

/-!
# Base 58

A byte string is written as its number in base 58, where zero bytes in front of the number are
written as the digit of zero, one by one.  The alphabet leaves out characters that are easily
confused.
-/

namespace GrapheneSigner

namespace Base58

/-- The digits in the order of their values. -/
def alphabet : Text := lit "123456789ABCDEFGHJKLMNPQRSTUVWXYZabcdefghijkmnopqrstuvwxyz"

def zero : CodePoint := .ofNat 0x31

def digit (d : Nat) : CodePoint := alphabet.getD d zero

def value? (c : CodePoint) : Option Nat := alphabet.findIdx? (· = c)

/-- The digits of a number, the greatest first; zero has none. -/
def ofNat (n : Nat) : Text := if n = 0 then [] else ofNat (n / 58) ++ [digit (n % 58)]
termination_by n
decreasing_by omega

/-- The bytes of a number, the greatest first; zero has none. -/
def bytesOf (n : Nat) : Bytes := if n = 0 then [] else bytesOf (n / 256) ++ [UInt8.ofNat (n % 256)]
termination_by n
decreasing_by omega

/-- The number with the given digits behind those of `n`. -/
def toNat? (n : Nat) : Text → Option Nat
  | [] => some n
  | c :: rest => (value? c).bind fun d ↦ toNat? (n * 58 + d) rest

def encode (b : Bytes) : Text :=
  List.replicate (b.takeWhile (· = 0)).length zero ++ ofNat (ofBigEndian b)

def decode? (t : Text) : Option Bytes :=
  (toNat? 0 t).map fun n ↦ List.replicate (t.takeWhile (· = zero)).length 0 ++ bytesOf n

end Base58

end GrapheneSigner
