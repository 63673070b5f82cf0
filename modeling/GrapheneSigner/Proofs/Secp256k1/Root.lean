import Mathlib.FieldTheory.Finite.Basic
import Mathlib.Tactic.LinearCombination
import GrapheneSigner.Proofs.Secp256k1.Primality
import GrapheneSigner.Secp256k1.Curve

/-!
# Inverses and square roots

By Fermat's theorem the powers that are computed are the inverses.  The modulus of coordinates is 3
modulo 4, so that a nonzero square has its roots among the powers, and of two opposite roots exactly
one is odd.  A point is lifted from its x coordinate and the parity of y exactly if there is one.
-/

namespace GrapheneSigner.Secp256k1

theorem pow_sub_two_eq_inv {p : ℕ} [Fact p.Prime] (hp : 2 < p) (a : ZMod p) : a ^ (p - 2) = a⁻¹ := by
  by_cases ha : a = 0
  · rw [ha, inv_zero, zero_pow (by omega)]
  · apply eq_inv_of_mul_eq_one_left
    rw [← pow_succ, show p - 2 + 1 = p - 1 by omega, ZMod.pow_card_sub_one_eq_one ha]

@[simp]
theorem Scalar.residue_inverse (a : Scalar) : residue (inverse a) = (residue a)⁻¹ := by
  unfold inverse
  rw [residue_power, pow_sub_two_eq_inv (by decide)]

namespace Coordinate

@[simp]
theorem residue_inverse (a : Coordinate) : residue (inverse a) = (residue a)⁻¹ := by
  unfold inverse
  rw [residue_power, pow_sub_two_eq_inv (by decide)]

/-! ## Square roots -/

/-- A nonzero square has the root that is computed, up to its sign. -/
theorem pow_root_of_sq {y : ZMod prime} (hy : y ≠ 0) :
    (y ^ 2) ^ ((prime + 1) / 4) = y ∨ (y ^ 2) ^ ((prime + 1) / 4) = -y := by
  have hhalf : (y ^ (prime / 2)) * (y ^ (prime / 2)) = 1 := by
    rw [← pow_add, show prime / 2 + prime / 2 = prime - 1 by decide,
      ZMod.pow_card_sub_one_eq_one hy]
  have hroot : (y ^ 2) ^ ((prime + 1) / 4) = y ^ (prime / 2) * y := by
    rw [← pow_mul, ← pow_succ, show 2 * ((prime + 1) / 4) = prime / 2 + 1 by decide]
  rw [hroot]
  rcases mul_self_eq_one_iff.mp hhalf with h | h
  · exact .inl (by rw [h, one_mul])
  · exact .inr (by rw [h, neg_one_mul])

theorem sq_of_squareRoot? {a y : Coordinate} (h : squareRoot? a = some y) :
    a ≠ 0 ∧ residue y ^ 2 = residue a := by
  unfold squareRoot? at h
  dsimp only at h
  split at h
  · rename_i hroot
    cases h
    refine ⟨hroot.1, ?_⟩
    rw [pow_two, ← residue_mul, hroot.2]
  · cases h

/-- Every nonzero square has a root. -/
theorem squareRoot?_of_sq {a y : Coordinate} (hy : y ≠ 0) (h : residue y ^ 2 = residue a) :
    squareRoot? a = some y ∨ squareRoot? a = some (-y) := by
  have hy' : residue y ≠ 0 := fun h0 ↦ hy (residue_eq_zero_iff.mp h0)
  have ha : a ≠ 0 := by
    rintro rfl
    rw [residue_zero] at h
    exact hy' (pow_eq_zero_iff (by decide) |>.mp h)
  have hroot : power 1 a ((prime + 1) / 4) = y ∨ power 1 a ((prime + 1) / 4) = -y := by
    rw [← residue_inj, ← residue_inj, residue_power, residue_neg, ← h]
    exact pow_root_of_sq hy'
  have hsquare : y * y = a := by
    rw [← residue_inj, residue_mul, ← pow_two, h]
  have hsquare' : -y * -y = a := by
    rw [← residue_inj, residue_mul, residue_neg, neg_mul_neg, ← pow_two, h]
  unfold squareRoot?
  dsimp only
  rcases hroot with hroot | hroot
  · left
    rw [hroot, if_pos ⟨ha, hsquare⟩]
  · right
    rw [hroot, if_pos ⟨ha, hsquare'⟩]

/-! ## Parity -/

/-- The parity of a coordinate. -/
def isOdd (y : Coordinate) : Bool := y.val % 2 == 1

/-- Of two opposite coordinates exactly one is odd. -/
theorem isOdd_neg {y : Coordinate} (hy : y ≠ 0) : isOdd (-y) = !isOdd y := by
  have hpos : y.val ≠ 0 := fun h ↦ hy (Fin.ext h)
  have hlt := y.isLt
  have hval : (-y).val = prime - y.val := by
    rw [Fin.val_neg, if_neg hy]
  have hodd : prime % 2 = 1 := by decide
  unfold isOdd
  rw [hval]
  rcases Nat.mod_two_eq_zero_or_one y.val with h | h
  · rw [h, show (prime - y.val) % 2 = 1 by omega]
    rfl
  · rw [h, show (prime - y.val) % 2 = 0 by omega]
    rfl

theorem withParity_eq (odd : Bool) (y : Coordinate) :
    withParity odd y = if isOdd y = odd then y else -y := rfl

theorem isOdd_withParity (odd : Bool) {y : Coordinate} (hy : y ≠ 0) :
    isOdd (withParity odd y) = odd := by
  rw [withParity_eq]
  split
  · assumption
  · rename_i h
    rw [isOdd_neg hy]
    cases odd <;> simpa using h

theorem withParity_of_isOdd {odd : Bool} {y : Coordinate} (hy : y ≠ 0) (h : isOdd y = odd) :
    withParity odd y = y ∧ withParity odd (-y) = y := by
  rw [withParity_eq, withParity_eq, isOdd_neg hy, h]
  cases odd <;> simp

end Coordinate

namespace Point

open Coordinate

@[simp]
theorem residue_cubic (x : Coordinate) : residue (cubic x) = residue x ^ 3 + 7 := by
  simp only [cubic, residue_add, residue_mul, residue_ofNat]
  ring

/-- A point is lifted exactly if it satisfies the equation with a nonzero y of the given parity. -/
theorem lift?_eq_some_iff {x : Coordinate} {odd : Bool} {p : Point} :
    lift? x odd = some p ↔
      ∃ y, p = .finite x y ∧ residue y ^ 2 = residue x ^ 3 + 7 ∧ y ≠ 0 ∧ isOdd y = odd := by
  unfold lift?
  rw [Option.map_eq_some_iff]
  constructor
  · rintro ⟨y, hroot, rfl⟩
    obtain ⟨hcubic, hsq⟩ := sq_of_squareRoot? hroot
    have hy : y ≠ 0 := by
      rintro rfl
      rw [residue_zero, zero_pow (by decide), eq_comm, residue_eq_zero_iff] at hsq
      exact hcubic hsq
    refine ⟨withParity odd y, rfl, ?_, ?_, isOdd_withParity odd hy⟩
    · rw [← residue_cubic, ← hsq, withParity_eq]
      split
      · rfl
      · rw [residue_neg, neg_sq]
    · rw [withParity_eq]
      split
      · exact hy
      · simpa using hy
  · rintro ⟨y, rfl, hsq, hy, hodd⟩
    obtain ⟨hsame, hneg⟩ := withParity_of_isOdd hy hodd
    rw [← residue_cubic] at hsq
    rcases squareRoot?_of_sq hy hsq with hroot | hroot
    · exact ⟨y, hroot, by rw [hsame]⟩
    · exact ⟨-y, hroot, by rw [hneg]⟩

end Point

end GrapheneSigner.Secp256k1
