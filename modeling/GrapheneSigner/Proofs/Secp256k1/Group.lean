import Mathlib.AlgebraicGeometry.EllipticCurve.Affine.Point
import GrapheneSigner.Proofs.Secp256k1.Root

/-!
# The group of the curve

The points of the curve are a group.  Triples stand for its elements, and their doubles, sums and
multiples stand for the doubles, sums and multiples in the group.  A point that is written down by
its coordinates is an element of the group, so that multiples of points are multiples in the group.
-/

namespace GrapheneSigner.Secp256k1

open WeierstrassCurve.Affine

/-- The curve y² = x³ + 7 over the field of coordinates. -/
def curve : WeierstrassCurve.Affine (ZMod prime) := ⟨0, 0, 0, 0, 7⟩

/-- A number that the modulus does not divide is no zero. -/
theorem natCast_ne_zero {k : ℕ} (hpos : 0 < k) (hlt : k < prime) : (k : ZMod prime) ≠ 0 := by
  rw [Ne, ZMod.natCast_eq_zero_iff]
  exact Nat.not_dvd_of_pos_of_lt hpos hlt

theorem two_ne_zero : (2 : ZMod prime) ≠ 0 := natCast_ne_zero (k := 2) (by decide) (by decide)

theorem nonsingular_iff {x y : ZMod prime} : curve.Nonsingular x y ↔ y ^ 2 = x ^ 3 + 7 := by
  have hdisc : curve.Δ = -((21168 : ℕ) : ZMod prime) := by
    simp only [curve, WeierstrassCurve.Δ, WeierstrassCurve.b₂, WeierstrassCurve.b₄,
      WeierstrassCurve.b₆, WeierstrassCurve.b₈]
    push_cast
    ring
  have hne : curve.Δ ≠ 0 := by
    rw [hdisc, neg_ne_zero]
    exact natCast_ne_zero (by decide) (by decide)
  rw [← equation_iff_nonsingular_of_Δ_ne_zero hne, equation_iff]
  simp only [curve, zero_mul, add_zero]

/-! ## The formulas -/

theorem negY_eq (x y : ZMod prime) : curve.negY x y = -y := by
  simp [negY, curve]

theorem addX_eq (x x' l : ZMod prime) : curve.addX x x' l = l ^ 2 - x - x' := by
  simp [addX, curve]

theorem addY_eq (x x' y l : ZMod prime) :
    curve.addY x x' y l = l * (x - (l ^ 2 - x - x')) - y := by
  unfold addY negAddY
  rw [negY_eq, addX_eq]
  ring

/-- The slope of the tangent at a point with nonzero y. -/
theorem slope_tangent {x y : ZMod prime} (hy : y ≠ 0) :
    curve.slope x x y y * (2 * y) = 3 * x ^ 2 := by
  have hne : y ≠ curve.negY x y := by
    rw [negY_eq, Ne, eq_neg_iff_add_eq_zero, ← two_mul]
    exact mul_ne_zero two_ne_zero hy
  have hden : y - curve.negY x y = 2 * y := by
    rw [negY_eq]
    ring
  rw [slope_of_Y_ne rfl hne, hden, div_mul_cancel₀ _ (mul_ne_zero two_ne_zero hy)]
  simp only [curve, zero_mul, mul_zero, add_zero, sub_zero]

/-- The slope of the line through two points with different x. -/
theorem slope_chord {x x' y y' : ZMod prime} (hx : x ≠ x') :
    curve.slope x x' y y' * (x' - x) = y' - y := by
  have hden : x - x' ≠ 0 := sub_ne_zero.mpr hx
  rw [slope_of_X_ne hx]
  field_simp
  ring

/-! ## Triples -/

namespace Triple

variable {s t u : Triple} {x y x' y' : ZMod prime}

/-- A triple has the coordinates x and y. -/
structure Places (t : Triple) (x y : ZMod prime) : Prop where
  z_ne_zero : residue t.z ≠ 0
  x_eq : residue t.x = x * residue t.z ^ 2
  y_eq : residue t.y = y * residue t.z ^ 3

/-- The tangent at a point leads to its double. -/
theorem Places.double (h : t.Places x y) (hy : y ≠ 0) {l : ZMod prime}
    (hl : l * (2 * y) = 3 * x ^ 2) :
    t.double.Places (l ^ 2 - x - x) (l * (x - (l ^ 2 - x - x)) - y) := by
  obtain ⟨hw, hx, hy'⟩ := h
  generalize hz : residue t.z = w at hw hx hy'
  have hz' : residue t.double.z = 2 * y * w ^ 4 := by
    simp only [Triple.double, residue_mul, residue_ofNat, hy', hz]
    ring
  constructor
  · rw [hz']
    exact mul_ne_zero (mul_ne_zero two_ne_zero hy) (pow_ne_zero 4 hw)
  · rw [hz']
    simp only [Triple.double, residue_sub, residue_mul, residue_ofNat, hx, hy']
    linear_combination (-(w ^ 8) * (3 * x ^ 2 + l * (2 * y))) * hl
  · rw [hz']
    simp only [Triple.double, residue_sub, residue_mul, residue_ofNat, hx, hy']
    linear_combination w ^ 12 * ((3 * x ^ 2) ^ 2 + 3 * x ^ 2 * (l * (2 * y))
      + (l * (2 * y)) ^ 2 - 12 * x * y ^ 2) * hl

/-- The difference of the x coordinates, on the common denominator. -/
def xGap (s t : Triple) : Coordinate := t.x * (s.z * s.z) - s.x * (t.z * t.z)

/-- The difference of the y coordinates, on the common denominator. -/
def yGap (s t : Triple) : Coordinate := t.y * (s.z * s.z * s.z) - s.y * (t.z * t.z * t.z)

/-- The sum of points with different x coordinates. -/
def chord (s t : Triple) : Triple :=
  let h := s.xGap t
  let r := s.yGap t
  let uhh := s.x * (t.z * t.z) * (h * h)
  let x := r * r - h * h * h - 2 * uhh
  ⟨x, r * (uhh - x) - s.y * (t.z * t.z * t.z) * (h * h * h), h * (s.z * t.z)⟩

theorem addFinite_eq (s t : Triple) :
    s.addFinite t =
      if s.xGap t = 0 then if s.yGap t = 0 then s.double else identity else s.chord t := rfl

theorem Places.residue_xGap (hs : s.Places x y) (ht : t.Places x' y') :
    residue (s.xGap t) = (x' - x) * (residue s.z * residue t.z) ^ 2 := by
  simp only [xGap, residue_sub, residue_mul, hs.x_eq, ht.x_eq]
  ring

theorem Places.residue_yGap (hs : s.Places x y) (ht : t.Places x' y') :
    residue (s.yGap t) = (y' - y) * (residue s.z * residue t.z) ^ 3 := by
  simp only [yGap, residue_sub, residue_mul, hs.y_eq, ht.y_eq]
  ring

theorem Places.xGap_eq_zero_iff (hs : s.Places x y) (ht : t.Places x' y') :
    s.xGap t = 0 ↔ x = x' := by
  have hz := pow_ne_zero 2 (mul_ne_zero hs.z_ne_zero ht.z_ne_zero)
  rw [← residue_eq_zero_iff, hs.residue_xGap ht, mul_eq_zero, or_iff_left hz, sub_eq_zero, eq_comm]

theorem Places.yGap_eq_zero_iff (hs : s.Places x y) (ht : t.Places x' y') :
    s.yGap t = 0 ↔ y = y' := by
  have hz := pow_ne_zero 3 (mul_ne_zero hs.z_ne_zero ht.z_ne_zero)
  rw [← residue_eq_zero_iff, hs.residue_yGap ht, mul_eq_zero, or_iff_left hz, sub_eq_zero, eq_comm]

/-- The line through two points leads to their sum. -/
theorem Places.chord (hs : s.Places x y) (ht : t.Places x' y') (hne : x ≠ x') {l : ZMod prime}
    (hl : l * (x' - x) = y' - y) :
    (s.chord t).Places (l ^ 2 - x - x') (l * (x - (l ^ 2 - x - x')) - y) := by
  have hh := hs.residue_xGap ht
  have hr := hs.residue_yGap ht
  obtain ⟨hv, hx, hy⟩ := hs
  obtain ⟨hw, _, _⟩ := ht
  generalize hsz : residue s.z = v at hv hx hy hh hr
  generalize htz : residue t.z = w at hw hh hr
  have hz' : residue (s.chord t).z = (x' - x) * (v * w) ^ 3 := by
    simp only [Triple.chord, residue_mul, hh, hsz, htz]
    ring
  constructor
  · rw [hz']
    exact mul_ne_zero (sub_ne_zero.mpr hne.symm) (pow_ne_zero 3 (mul_ne_zero hv hw))
  · rw [hz']
    simp only [Triple.chord, residue_sub, residue_mul, residue_ofNat, hh, hr, hx, htz]
    linear_combination (-((v * w) ^ 6) * ((y' - y) + l * (x' - x))) * hl
  · rw [hz']
    simp only [Triple.chord, residue_sub, residue_mul, residue_ofNat, hh, hr, hx, hy, htz]
    linear_combination (v * w) ^ 9 * ((y' - y) ^ 2 + (y' - y) * (l * (x' - x))
      + (l * (x' - x)) ^ 2 - (x' - x) ^ 2 * (2 * x + x')) * hl

/-- A triple stands for an element of the group. -/
inductive StandsFor (t : Triple) : curve.Point → Prop
  | zero (hz : t.z = 0) : StandsFor t 0
  | some {x y : ZMod prime} (hxy : curve.Nonsingular x y) (h : t.Places x y) :
      StandsFor t (.some x y hxy)

namespace StandsFor

variable {P Q : curve.Point}

theorem z_eq_zero_iff (h : t.StandsFor P) : t.z = 0 ↔ P = 0 := by
  cases h with
  | zero hz => exact iff_of_true hz rfl
  | some hxy h =>
    apply iff_of_false
    · rw [← residue_eq_zero_iff]
      exact h.z_ne_zero
    · exact Point.some_ne_zero hxy

theorem double (h : t.StandsFor P) : t.double.StandsFor (P + P) := by
  cases h with
  | zero hz =>
    rw [add_zero]
    apply zero
    rw [← residue_eq_zero_iff, Triple.double]
    simp [hz]
  | @some x y hxy h =>
    by_cases hy : y = 0
    · have hsum : Point.some x y hxy + Point.some x y hxy = 0 :=
        Point.add_self_of_Y_eq (by rw [negY_eq, hy, neg_zero])
      rw [hsum]
      apply zero
      rw [← residue_eq_zero_iff, Triple.double]
      simp [h.y_eq, hy]
    · have hne : y ≠ curve.negY x y := by
        rw [negY_eq, Ne, eq_neg_iff_add_eq_zero, ← two_mul]
        exact mul_ne_zero two_ne_zero hy
      rw [Point.add_self_of_Y_ne hne]
      apply some
      rw [addX_eq, addY_eq]
      exact h.double hy (slope_tangent hy)

theorem addFinite (hs : s.StandsFor P) (ht : t.StandsFor Q) (hP : P ≠ 0) (hQ : Q ≠ 0) :
    (s.addFinite t).StandsFor (P + Q) := by
  have hdouble := hs.double
  cases hs with
  | zero _ => exact absurd rfl hP
  | @some x y hxy hs =>
  cases ht with
  | zero _ => exact absurd rfl hQ
  | @some x' y' hxy' ht =>
    rw [addFinite_eq]
    by_cases hx : x = x'
    · rw [if_pos ((hs.xGap_eq_zero_iff ht).mpr hx)]
      subst hx
      by_cases hy : y = y'
      · rw [if_pos ((hs.yGap_eq_zero_iff ht).mpr hy)]
        subst hy
        exact hdouble
      · -- on the curve there are only two points with the same x
        have hneg : y = curve.negY x y' := (Y_eq_of_X_eq hxy.1 hxy'.1 rfl).resolve_left hy
        rw [if_neg (mt (hs.yGap_eq_zero_iff ht).mp hy), Point.add_of_Y_eq rfl hneg]
        exact zero rfl
    · rw [if_neg (mt (hs.xGap_eq_zero_iff ht).mp hx), Point.add_of_X_ne hx]
      apply some
      rw [addX_eq, addY_eq]
      exact hs.chord ht hx (slope_chord hx)

theorem add (hs : s.StandsFor P) (ht : t.StandsFor Q) : (s.add t).StandsFor (P + Q) := by
  unfold Triple.add
  by_cases hP : P = 0
  · rw [if_pos (hs.z_eq_zero_iff.mpr hP), hP, zero_add]
    exact ht
  · rw [if_neg (mt hs.z_eq_zero_iff.mp hP)]
    by_cases hQ : Q = 0
    · rw [if_pos (ht.z_eq_zero_iff.mpr hQ), hQ, add_zero]
      exact hs
    · rw [if_neg (mt ht.z_eq_zero_iff.mp hQ)]
      exact hs.addFinite ht hP hQ

theorem identity : Triple.identity.StandsFor 0 := zero rfl

/-- Doubling and adding gives the multiple. -/
theorem multiple (h : t.StandsFor P) (k : ℕ) : (t.multiple k).StandsFor (k • P) := by
  induction k using Nat.strong_induction_on with
  | _ k ih =>
    unfold Triple.multiple
    by_cases hk : k = 0
    · rw [if_pos hk, hk, zero_nsmul]
      exact identity
    · have hhalf := (ih (k / 2) (by omega)).double
      rw [← add_nsmul] at hhalf
      rw [if_neg hk]
      dsimp only
      split
      · have hsum := hhalf.add h
        rwa [← succ_nsmul, show k / 2 + k / 2 + 1 = k by omega] at hsum
      · rwa [show k / 2 + k / 2 = k by omega] at hhalf

/-- One run of doublings gives the sum of two multiples. -/
theorem combination (hs : s.StandsFor P) (ht : t.StandsFor Q) (hu : u.StandsFor (P + Q))
    (j k : ℕ) : (Triple.combination s t u j k).StandsFor (j • P + k • Q) := by
  induction hn : j + k using Nat.strong_induction_on generalizing j k with
  | _ n ih =>
    unfold Triple.combination
    by_cases hzero : j = 0 ∧ k = 0
    · rw [if_pos hzero, hzero.1, hzero.2, zero_nsmul, zero_nsmul, add_zero]
      exact identity
    · have hhalf := (ih (j / 2 + k / 2) (by omega) (j / 2) (k / 2) rfl).double
      have hj : j • P = (j / 2) • P + (j / 2) • P + (j % 2) • P := by
        rw [← add_nsmul, ← add_nsmul, show j / 2 + j / 2 + j % 2 = j by omega]
      have hk : k • Q = (k / 2) • Q + (k / 2) • Q + (k % 2) • Q := by
        rw [← add_nsmul, ← add_nsmul, show k / 2 + k / 2 + k % 2 = k by omega]
      have hsum : j • P + k • Q = (j / 2) • P + (k / 2) • Q + ((j / 2) • P + (k / 2) • Q)
          + ((j % 2) • P + (k % 2) • Q) := by
        rw [hj, hk]
        abel
      rw [if_neg hzero, hsum]
      dsimp only
      rcases Nat.mod_two_eq_zero_or_one j with hj2 | hj2 <;>
        rcases Nat.mod_two_eq_zero_or_one k with hk2 | hk2 <;>
        simp only [hj2, hk2, zero_ne_one, if_true, if_false, zero_nsmul, one_nsmul, add_zero,
          zero_add]
      · exact hhalf
      · exact hhalf.add ht
      · exact hhalf.add hs
      · exact hhalf.add hu

end StandsFor

end Triple

/-! ## Points by their coordinates -/

def coordinate (x : ZMod prime) : Coordinate := ⟨x.val, x.val_lt⟩

@[simp]
theorem residue_coordinate (x : ZMod prime) : residue (coordinate x) = x := ZMod.natCast_zmod_val x

@[simp]
theorem coordinate_residue (a : Coordinate) : coordinate (residue a) = a := by
  rw [← residue_inj, residue_coordinate]

namespace Point

/-- An element of the group by its coordinates. -/
def ofGroup : curve.Point → Point
  | .zero => identity
  | .some x y _ => finite (coordinate x) (coordinate y)

theorem ofGroup_injective : Function.Injective ofGroup := by
  intro P Q h
  cases P with
  | zero =>
    cases Q with
    | zero => rfl
    | some => cases h
  | some x y =>
    cases Q with
    | zero => cases h
    | some x' y' =>
      rw [ofGroup, ofGroup, Point.finite.injEq] at h
      have hx := congrArg residue h.1
      have hy := congrArg residue h.2
      simp only [residue_coordinate] at hx hy
      subst hx hy
      rfl

@[simp]
theorem ofGroup_eq_identity_iff {P : curve.Point} : ofGroup P = identity ↔ P = 0 :=
  ofGroup_injective.eq_iff' rfl

end Point

namespace Triple.StandsFor

variable {t : Triple} {P : curve.Point}

theorem ofPoint (P : curve.Point) : (Triple.ofPoint (Point.ofGroup P)).StandsFor P := by
  cases P with
  | zero => exact identity
  | some x y hxy =>
    apply some hxy
    constructor <;> simp [Triple.ofPoint, Point.ofGroup]

theorem toPoint_eq (h : t.StandsFor P) : t.toPoint = Point.ofGroup P := by
  unfold Triple.toPoint
  by_cases hP : P = 0
  · rw [if_pos (h.z_eq_zero_iff.mpr hP), hP]
    rfl
  · rw [if_neg (mt h.z_eq_zero_iff.mp hP)]
    cases h with
    | zero _ => exact absurd rfl hP
    | some hxy h =>
      have hz := h.z_ne_zero
      rw [Point.ofGroup, Point.finite.injEq, ← residue_inj, ← residue_inj]
      simp only [residue_mul, Coordinate.residue_inverse, residue_coordinate, h.x_eq, h.y_eq]
      constructor <;> field_simp

end Triple.StandsFor

namespace Point

/-- The coordinates of the elements of the group are those that satisfy the equation. -/
theorem exists_ofGroup_iff {x y : Coordinate} :
    (∃ R, ofGroup R = finite x y) ↔ residue y ^ 2 = residue x ^ 3 + 7 := by
  constructor
  · rintro ⟨R, hR⟩
    cases R with
    | zero => cases hR
    | some u v huv =>
      cases hR
      rw [residue_coordinate, residue_coordinate]
      exact nonsingular_iff.mp huv
  · intro h
    refine ⟨.some (residue x) (residue y) (nonsingular_iff.mpr h), ?_⟩
    rw [ofGroup, coordinate_residue, coordinate_residue]

theorem ofGroup_neg {R : curve.Point} {x y : Coordinate} (h : ofGroup R = finite x y) :
    ofGroup (-R) = finite x (-y) := by
  cases R with
  | zero => cases h
  | some u v huv =>
    cases h
    rw [WeierstrassCurve.Affine.Point.neg_some, ofGroup, Point.finite.injEq]
    refine ⟨rfl, ?_⟩
    rw [← residue_inj, residue_coordinate, residue_neg, residue_coordinate, negY_eq]

end Point

end GrapheneSigner.Secp256k1
