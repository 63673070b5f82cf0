import GrapheneSigner.Secp256k1.Curve
import GrapheneSigner.Secp256k1.Nonce
import GrapheneSigner.Text.Numeral

/-!
# Signatures

A signature of a digest consists of the x coordinate `r` of a multiple of the generator and of a
scalar `s`.  Of the two signatures that differ in the sign of `s`, the lower one is made.  From a
signature and the digest the public point can be recovered up to four candidates, which are told
apart by two bits: the parity of the y coordinate, and whether `r` was reduced.

Recovery accepts any integers.  A negative `r` names a point by an x coordinate that is not reduced.
Such a coordinate is reduced by any calculation, but where `s` is one the point is used as it
stands: it is then equal to no point that is known by its reduced coordinates, and if nothing is
added to it, it is answered as it was named.
-/

namespace GrapheneSigner.Secp256k1

/-- The two integers of a signature. -/
structure Signature where
  r : Nat
  s : Nat
  deriving DecidableEq

/-- A digest as a scalar. -/
def digestScalar (digest : Bytes) : Scalar := Fin.ofNat order (ofBigEndian digest)

namespace Signature

/-- Of two opposite scalars the lower one. -/
def low (s : Scalar) : Nat := if order / 2 < s.val then order - s.val else s.val

/-- The signature with nonce `k`, unless one of its integers is zero. -/
def withNonce? (secret : Nat) (e : Scalar) (k : Nat) : Option Signature :=
  let nonce : Scalar := Fin.ofNat order k
  match Point.generator.multiple nonce with
  | .identity => none
  | .finite x _ =>
    let r : Scalar := Fin.ofNat order x.val
    let s : Scalar := Scalar.inverse nonce * (e + r * Fin.ofNat order secret)
    if r = 0 ∨ s = 0 then none else some ⟨r.val, low s⟩

/-- The signature of a digest by a secret. -/
def make? (secret : Nat) (digest : Bytes) : Option Signature :=
  Nonce.first (withNonce? secret (digestScalar digest)) secret digest

end Signature

/-- Why no candidate can be computed. -/
inductive RecoveryFault where
  /-- The candidate is not one of the four. -/
  | noCandidate (id : Int)
  /-- The integer `r` is a multiple of the order, but not zero. -/
  | noInverse
  deriving DecidableEq

namespace RecoveryFault

/-- Says why no candidate can be computed. -/
def message : RecoveryFault → Text
  | noCandidate id =>
    match Numeral.write id with
    | .ok numeral => lit "recovery_id must be between 0 and 3, got " ++ numeral
    | .error overlong => overlong
  | noInverse => lit "base is not invertible for the given modulus"

end RecoveryFault

/-- A candidate for the public point, by its coordinates, of which the first may be a negative
integer that stands for its residue. -/
structure Candidate where
  x : Int
  y : Coordinate
  deriving DecidableEq

/-- The candidate that a point is, unless it is the identity. -/
def Candidate.ofPoint? : Point → Option Candidate
  | .identity => none
  | .finite x y => some ⟨x.val, y⟩

/-- The public point of a signature with `r` invertible and a digest `e`, by the point `p` that
the signature names. -/
def solve (p : Point) (r s e : Scalar) : Point :=
  let inv := Scalar.inverse r
  Point.combination (inv * s) p (inv * -e) .generator

/-- The multiple of the generator by `e` is known by its reduced coordinates: it is one of the
doublings of the generator. -/
def isDoubling (e : Scalar) : Bool := 1 <<< e.val.log2 == e.val

/-- What `solve` amounts to if `s` is one and `p` is named by a negative x coordinate: the named
point itself, if nothing is added to it and `r` is one, and nothing, if what is added has the same
x coordinate and is known by it. -/
def solveUnreduced (x : Int) (p : Point) (r e : Scalar) : Option Candidate :=
  let named? := match p with
    | .identity => none
    | .finite _ y => some ⟨x, y⟩
  let sameX := match Point.generator.multiple (-e) with
    | .identity => false
    | .finite u _ => u == Coordinate.ofInt x
  if e = 0 ∧ r = 1 then named?
  else if isDoubling (-e) && sameX then none
  else Candidate.ofPoint? (solve p r 1 e)

/-- The candidate number `id` for the public point, if there is one. -/
def recover (id r s : Int) (digest : Bytes) : Except RecoveryFault (Option Candidate) :=
  if id < 0 ∨ 3 < id then .error (.noCandidate id)
  else
    let x := r + (id / 2) * order
    if prime ≤ x then .ok none
    else
      match Point.lift? (Coordinate.ofInt x) (id % 2 == 1) with
      | none => .ok none
      | some p =>
        if r = 0 then .ok none
        else if Scalar.ofInt r = 0 then .error .noInverse
        else if x < 0 ∧ s = 1 then
          .ok (solveUnreduced x p (Scalar.ofInt r) (digestScalar digest))
        else .ok (Candidate.ofPoint? (solve p (Scalar.ofInt r) (Scalar.ofInt s)
          (digestScalar digest)))

end GrapheneSigner.Secp256k1
