import GrapheneSigner.Secp256k1.Field

/-!
# The curve

The curve has the equation y² = x³ + 7.  A point is the identity or a pair of coordinates.  Sums
are computed on triples (x, y, z) that stand for the point (x / z², y / z³), and for the identity
when z is zero, so that one inversion at the end is enough.
-/

namespace GrapheneSigner.Secp256k1

/-- A point of the curve. -/
inductive Point where
  | identity
  | finite (x y : Coordinate)
  deriving DecidableEq

namespace Point

def generator : Point :=
  .finite ⟨0x79BE667EF9DCBBAC55A06295CE870B07029BFCDB2DCE28D959F2815B16F81798, by decide⟩
    ⟨0x483ADA7726A3C4655DA4FBFC0E1108A8FD17B448A68554199C47D08FFB10D4B8, by decide⟩

/-- The right-hand side of the equation. -/
def cubic (x : Coordinate) : Coordinate := x * x * x + 7

/-- The point with the given x coordinate and parity of y, if there is one with nonzero y. -/
def lift? (x : Coordinate) (odd : Bool) : Option Point :=
  (Coordinate.squareRoot? (cubic x)).map fun y ↦ .finite x (Coordinate.withParity odd y)

end Point

/-- A triple that stands for a point. -/
structure Triple where
  x : Coordinate
  y : Coordinate
  z : Coordinate

namespace Triple

/-- A triple for the identity. -/
def identity : Triple := ⟨1, 1, 0⟩

def ofPoint : Point → Triple
  | .identity => identity
  | .finite x y => ⟨x, y, 1⟩

def toPoint (t : Triple) : Point :=
  if t.z = 0 then .identity
  else
    let inv := Coordinate.inverse t.z
    let inv2 := inv * inv
    .finite (t.x * inv2) (t.y * (inv2 * inv))

def double (t : Triple) : Triple :=
  let a := t.x * t.x
  let b := t.y * t.y
  let d := 4 * (t.x * b)
  let e := 3 * a
  let x := e * e - 2 * d
  ⟨x, e * (d - x) - 8 * (b * b), 2 * (t.y * t.z)⟩

/-- The sum of two points that are not the identity; equal points are doubled, and opposite points
cancel. -/
def addFinite (s t : Triple) : Triple :=
  let zz := s.z * s.z
  let ww := t.z * t.z
  let u := s.x * ww
  let v := s.y * (ww * t.z)
  let h := t.x * zz - u
  let r := t.y * (zz * s.z) - v
  if h = 0 then
    if r = 0 then s.double else identity
  else
    let hh := h * h
    let hhh := hh * h
    let uhh := u * hh
    let x := r * r - hhh - 2 * uhh
    ⟨x, r * (uhh - x) - v * hhh, h * (s.z * t.z)⟩

def add (s t : Triple) : Triple :=
  if s.z = 0 then t else if t.z = 0 then s else addFinite s t

/-- The `k`-fold of a point, by doubling and adding. -/
def multiple (t : Triple) (k : Nat) : Triple :=
  if k = 0 then identity
  else
    let half := (multiple t (k / 2)).double
    if k % 2 = 1 then half.add t else half
termination_by k
decreasing_by omega

/-- The sum of the `j`-fold of `s` and the `k`-fold of `t`, by one run of doublings for both; `u`
is the sum of `s` and `t`. -/
def combination (s t u : Triple) (j k : Nat) : Triple :=
  if j = 0 ∧ k = 0 then identity
  else
    let half := (combination s t u (j / 2) (k / 2)).double
    if j % 2 = 1 then
      if k % 2 = 1 then half.add u else half.add s
    else if k % 2 = 1 then half.add t else half
termination_by j + k
decreasing_by omega

end Triple

namespace Point

def multiple (p : Point) (k : Scalar) : Point := ((Triple.ofPoint p).multiple k.val).toPoint

/-- The sum of the multiples of two points by two scalars. -/
def combination (j : Scalar) (p : Point) (k : Scalar) (q : Point) : Point :=
  let s := Triple.ofPoint p
  let t := Triple.ofPoint q
  (Triple.combination s t (s.add t) j.val k.val).toPoint

end Point

end GrapheneSigner.Secp256k1
