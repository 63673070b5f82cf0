import Mathlib.Algebra.Module.ZMod
import Mathlib.GroupTheory.Perm.Cycle.Type
import GrapheneSigner.Proofs.Secp256k1.Group

/-!
# The order of the group

The generator has the order that the curve is known by, which is a prime.  The group has at most two
elements for each x coordinate and is therefore less than three times as large.  It is not twice as
large, since it has no element of order two: minus seven is no cube.  So the group has prime order,
and scalars act on it as a field.
-/

namespace GrapheneSigner.Secp256k1

open WeierstrassCurve.Affine

/-! ## The generator -/

theorem exists_base : ∃ P : curve.Point, Point.ofGroup P = .generator := by
  apply Point.exists_ofGroup_iff.mpr
  rw [← Point.residue_cubic, pow_two, ← residue_mul, residue_inj]
  decide +kernel

/-- The generator as an element of the group. -/
noncomputable def base : curve.Point := exists_base.choose

@[simp]
theorem ofGroup_base : Point.ofGroup base = .generator := exists_base.choose_spec

theorem base_ne_zero : base ≠ 0 := by
  rw [Ne, ← Point.ofGroup_eq_identity_iff, ofGroup_base]
  decide

theorem addOrderOf_base : addOrderOf base = order := by
  apply addOrderOf_eq_prime _ base_ne_zero
  have hstands := (Triple.StandsFor.ofPoint base).multiple order
  rw [ofGroup_base] at hstands
  rw [← hstands.z_eq_zero_iff]
  decide +kernel

/-! ## The number of elements -/

/-- The x coordinate of an element and the parity of its y coordinate. -/
def key : curve.Point → Option (ZMod prime × Bool)
  | .zero => none
  | .some x y _ => some (x, (coordinate y).isOdd)

theorem key_injective : Function.Injective key := by
  intro P Q h
  cases P with
  | zero =>
    cases Q with
    | zero => rfl
    | some => cases h
  | some x y hxy =>
    cases Q with
    | zero => cases h
    | some x' y' hxy' =>
      rw [key, key, Option.some.injEq, Prod.mk.injEq] at h
      obtain ⟨rfl, hodd⟩ := h
      suffices hy : y = y' by
        subst hy
        rfl
      rcases Y_eq_of_X_eq hxy.1 hxy'.1 rfl with hy | hy
      · exact hy
      · -- opposite coordinates have the same parity only if they are zero
        rw [negY_eq] at hy
        by_cases hzero : coordinate y' = 0
        · have hy' : y' = 0 := by
            rw [← residue_coordinate y', hzero, residue_zero]
          rw [hy, hy', neg_zero]
        · have hneg : coordinate y = -coordinate y' := by
            rw [← residue_inj, residue_neg, residue_coordinate, residue_coordinate, hy]
          rw [hneg, Coordinate.isOdd_neg hzero] at hodd
          simp at hodd

instance : Finite curve.Point := Finite.of_injective key key_injective

theorem card_le : Nat.card curve.Point ≤ 2 * prime + 1 := by
  have hle := Nat.card_le_card_of_injective key key_injective
  rw [Nat.card_eq_fintype_card (α := Option (ZMod prime × Bool)), Fintype.card_option,
    Fintype.card_prod, ZMod.card, Fintype.card_bool] at hle
  omega

/-- Minus seven is no cube. -/
theorem cube_ne_neg_seven (x : ZMod prime) : x ^ 3 ≠ -7 := by
  intro h
  have hx : x ≠ 0 := by
    rintro rfl
    rw [zero_pow (by decide), zero_eq_neg] at h
    exact natCast_ne_zero (k := 7) (by decide) (by decide) h
  have hpower : (-7 : ZMod prime) ^ ((prime - 1) / 3) = 1 := by
    rw [← h, ← pow_mul, show 3 * ((prime - 1) / 3) = prime - 1 by decide,
      ZMod.pow_card_sub_one_eq_one hx]
  have hfin : power 1 (-7 : Coordinate) ((prime - 1) / 3) = 1 := by
    rw [← residue_inj, residue_power, residue_neg, residue_ofNat, residue_one]
    exact hpower
  exact absurd hfin (by decide +kernel)

/-- No element has order two. -/
theorem eq_zero_of_add_self {P : curve.Point} (h : P + P = 0) : P = 0 := by
  cases P with
  | zero => rfl
  | some x y hxy =>
    by_cases hy : y = 0
    · have hcube := nonsingular_iff.mp hxy
      rw [hy, zero_pow (by decide), eq_comm, add_eq_zero_iff_eq_neg] at hcube
      exact absurd hcube (cube_ne_neg_seven x)
    · have hne : y ≠ curve.negY x y := by
        rw [negY_eq, Ne, eq_neg_iff_add_eq_zero, ← two_mul]
        exact mul_ne_zero two_ne_zero hy
      rw [Point.add_self_of_Y_ne hne] at h
      exact absurd h (Point.some_ne_zero _)

theorem card_eq : Nat.card curve.Point = order := by
  have hdvd : order ∣ Nat.card curve.Point := by
    rw [← addOrderOf_base]
    exact addOrderOf_dvd_natCard base
  have hpos : 0 < Nat.card curve.Point := Nat.card_pos
  have hle := card_le
  have hbound : 2 * prime + 1 < 3 * order := by decide
  obtain ⟨k, hk⟩ := hdvd
  have hk3 : k < 3 := by
    by_contra hge
    have := Nat.mul_le_mul_left order (Nat.le_of_not_lt hge)
    omega
  have hcases : k = 0 ∨ k = 1 ∨ k = 2 := by omega
  rcases hcases with rfl | rfl | rfl
  · omega
  · rw [hk, mul_one]
  · have htwo : 2 ∣ Nat.card curve.Point := ⟨order, by rw [hk, mul_comm]⟩
    obtain ⟨P, hP⟩ := exists_prime_addOrderOf_dvd_card' 2 htwo
    have hsum : P + P = 0 := by
      rw [← two_nsmul, ← hP, addOrderOf_nsmul_eq_zero]
    rw [eq_zero_of_add_self hsum, addOrderOf_zero] at hP
    cases hP

theorem y_ne_zero_of_ofGroup {R : curve.Point} {x y : Coordinate}
    (h : Point.ofGroup R = .finite x y) : y ≠ 0 := by
  rintro rfl
  have hcube := Point.exists_ofGroup_iff.mp ⟨R, h⟩
  rw [residue_zero, zero_pow (by decide), eq_comm, add_eq_zero_iff_eq_neg] at hcube
  exact cube_ne_neg_seven _ hcube

/-! ## Scalars -/

noncomputable instance : Module (ZMod order) curve.Point :=
  AddCommGroup.zmodModule fun P ↦ by rw [← card_eq, card_nsmul_eq_zero']

theorem residue_smul (k : Scalar) (P : curve.Point) : residue k • P = k.val • P :=
  Nat.cast_smul_eq_nsmul (ZMod order) k.val P

namespace Point

@[simp]
theorem multiple_ofGroup (P : curve.Point) (k : Scalar) :
    (ofGroup P).multiple k = ofGroup (residue k • P) := by
  rw [residue_smul]
  exact ((Triple.StandsFor.ofPoint P).multiple k.val).toPoint_eq

@[simp]
theorem combination_ofGroup (j k : Scalar) (P Q : curve.Point) :
    combination j (ofGroup P) k (ofGroup Q) = ofGroup (residue j • P + residue k • Q) := by
  have hP := Triple.StandsFor.ofPoint P
  have hQ := Triple.StandsFor.ofPoint Q
  rw [residue_smul, residue_smul]
  exact (hP.combination hQ (hP.add hQ) j.val k.val).toPoint_eq

end Point

end GrapheneSigner.Secp256k1
