import Mathlib.Data.ZMod.Basic
import Mathlib.Tactic.Ring
import GrapheneSigner.Secp256k1.Field

/-!
# Residues

Coordinates and scalars compute as residues modulo their moduli do.  The map to the ring of residues
keeps sums, products, differences and numerals, and it takes repeated squaring to a power.
-/

namespace GrapheneSigner.Secp256k1

/-- The residue that a number below a modulus stands for. -/
def residue {n : ℕ} (a : Fin n) : ZMod n := (a.val : ZMod n)

variable {n : ℕ}

theorem residue_injective : Function.Injective (residue : Fin n → ZMod n) := by
  intro a b h
  have hval := (ZMod.natCast_eq_natCast_iff' a.val b.val n).mp h
  rw [Nat.mod_eq_of_lt a.isLt, Nat.mod_eq_of_lt b.isLt] at hval
  exact Fin.ext hval

@[simp]
theorem residue_inj {a b : Fin n} : residue a = residue b ↔ a = b := residue_injective.eq_iff

@[simp]
theorem residue_add (a b : Fin n) : residue (a + b) = residue a + residue b := by
  simp [residue, Fin.val_add]

@[simp]
theorem residue_mul (a b : Fin n) : residue (a * b) = residue a * residue b := by
  simp [residue, Fin.val_mul]

@[simp]
theorem residue_sub (a b : Fin n) : residue (a - b) = residue a - residue b := by
  simp only [residue, Fin.sub_def, ZMod.natCast_mod, Nat.cast_add, Nat.cast_sub b.isLt.le,
    ZMod.natCast_self]
  ring

section Numeral

variable [NeZero n]

@[simp]
theorem residue_fin_ofNat (k : ℕ) : residue (Fin.ofNat n k) = k := by
  simp [residue]

@[simp]
theorem residue_ofNat (k : ℕ) [k.AtLeastTwo] : residue (ofNat(k) : Fin n) = OfNat.ofNat k :=
  residue_fin_ofNat k

@[simp]
theorem residue_zero : residue (0 : Fin n) = 0 := (residue_fin_ofNat 0).trans Nat.cast_zero

@[simp]
theorem residue_one : residue (1 : Fin n) = 1 := (residue_fin_ofNat 1).trans Nat.cast_one

theorem residue_eq_zero_iff {a : Fin n} : residue a = 0 ↔ a = 0 := by
  rw [← residue_zero, residue_inj]

@[simp]
theorem residue_neg (a : Fin n) : residue (-a) = -residue a := by
  rw [eq_neg_iff_add_eq_zero, ← residue_add, residue_eq_zero_iff]
  exact neg_add_cancel a

/-- Repeated squaring gives the power. -/
@[simp]
theorem residue_power (a : Fin n) (k : ℕ) : residue (power 1 a k) = residue a ^ k := by
  induction k using Nat.strong_induction_on generalizing a with
  | _ k ih =>
    unfold power
    by_cases hk : k = 0
    · rw [if_pos hk, hk, residue_one, pow_zero]
    · have hhalf : residue (power 1 (a * a) (k / 2)) = residue a ^ (2 * (k / 2)) := by
        rw [ih (k / 2) (by omega), residue_mul, ← pow_two, ← pow_mul]
      rw [if_neg hk]
      dsimp only
      split
      · rw [residue_mul, hhalf, ← pow_succ, show 2 * (k / 2) + 1 = k by omega]
      · rw [hhalf, show 2 * (k / 2) = k by omega]

end Numeral

end GrapheneSigner.Secp256k1
