/-!
# The two fields of the curve

Coordinates are integers modulo a prime, and scalars are integers modulo the order of the group,
which is a prime too.  Both are `Fin` types with their modular arithmetic.  Powers are taken by
repeated squaring, and by Fermat's theorem the inverse of a nonzero element is a power of it.
-/

namespace GrapheneSigner.Secp256k1

/-- The modulus of coordinates. -/
def prime : Nat := 0xFFFFFFFFFFFFFFFFFFFFFFFFFFFFFFFFFFFFFFFFFFFFFFFFFFFFFFFEFFFFFC2F

/-- The number of points of the curve. -/
def order : Nat := 0xFFFFFFFFFFFFFFFFFFFFFFFFFFFFFFFEBAAEDCE6AF48A03BBFD25E8CD0364141

instance : @NeZero Nat Zero.ofOfNat0 prime := ⟨by decide⟩

instance : @NeZero Nat Zero.ofOfNat0 order := ⟨by decide⟩

abbrev Coordinate := Fin prime

abbrev Scalar := Fin order

/-- The `k`-th power by repeated squaring; the zeroth power is `one`. -/
@[specialize]
def power {α : Type} [Mul α] (one a : α) (k : Nat) : α :=
  if k = 0 then one
  else
    let square := power one (a * a) (k / 2)
    if k % 2 = 1 then square * a else square
termination_by k
decreasing_by omega

namespace Scalar

def ofInt (i : Int) : Scalar := Fin.ofNat order (i.emod order).toNat

/-- The inverse of a nonzero scalar; zero stays zero. -/
def inverse (a : Scalar) : Scalar := power 1 a (order - 2)

end Scalar

namespace Coordinate

def ofInt (i : Int) : Coordinate := Fin.ofNat prime (i.emod prime).toNat

/-- The inverse of a nonzero coordinate; zero stays zero. -/
def inverse (a : Coordinate) : Coordinate := power 1 a (prime - 2)

/-- The even one of two opposite square roots, or the odd one. -/
def withParity (odd : Bool) (y : Coordinate) : Coordinate :=
  if (y.val % 2 == 1) = odd then y else -y

/-- A square root of a nonzero square: since the prime is 3 modulo 4, the candidate is a power. -/
def squareRoot? (a : Coordinate) : Option Coordinate :=
  let root := power 1 a ((prime + 1) / 4)
  if a ≠ 0 ∧ root * root = a then some root else none

end Coordinate

end GrapheneSigner.Secp256k1
