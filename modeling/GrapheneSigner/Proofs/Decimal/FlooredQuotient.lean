import GrapheneSigner.Proofs.Decimal.WholeQuotient

/-!
# Quotients that keep their integer part

Rounding a quotient to a double may move it to the next integer, but only if it is closer to that
integer than half the distance of two neighbouring doubles.  A quotient with a small denominator is
not that close to an integer unless it is one, and so its integer part is the one of the double.
-/

namespace GrapheneSigner

theorem le_roundHalfEven (num den : Nat) : num / den ≤ roundHalfEven num den := by
  unfold roundHalfEven
  dsimp only
  split <;> omega

/-- Rounding moves a quotient by one half at most. -/
theorem two_mul_roundHalfEven_le (num den : Nat) :
    2 * (den * roundHalfEven num den) ≤ 2 * num + den := by
  have hsplit : den * (num / den) + num % den = num := Nat.div_add_mod num den
  unfold roundHalfEven
  dsimp only
  split
  · rw [Nat.mul_succ]
    omega
  · omega

/-- A quotient that is rounded to a multiple of a small enough power of two keeps its integer part:
below an integer it is at least one denominator away from it. -/
theorem roundHalfEven_div_two_pow {num den k : Nat} (hden : 0 < den) (hlt : den < 2 ^ (k + 1)) :
    roundHalfEven (num * 2 ^ k) den / 2 ^ k = num / den := by
  have hpow : 0 < 2 ^ k := Nat.two_pow_pos k
  apply Nat.div_eq_of_lt_le
  · calc num / den * 2 ^ k ≤ num * 2 ^ k / den := by
          rw [Nat.le_div_iff_mul_le hden, Nat.mul_right_comm]
          exact Nat.mul_le_mul_right _ (Nat.div_mul_le_self num den)
      _ ≤ roundHalfEven (num * 2 ^ k) den := le_roundHalfEven _ _
  · have hround := two_mul_roundHalfEven_le (num * 2 ^ k) den
    have hbelow : num + 1 ≤ den * (num / den + 1) := Nat.lt_mul_div_succ num hden
    have hscaled : num * 2 ^ k + 2 ^ k ≤ den * ((num / den + 1) * 2 ^ k) := by
      calc num * 2 ^ k + 2 ^ k = (num + 1) * 2 ^ k := (Nat.succ_mul _ _).symm
        _ ≤ den * (num / den + 1) * 2 ^ k := Nat.mul_le_mul_right _ hbelow
        _ = den * ((num / den + 1) * 2 ^ k) := Nat.mul_assoc _ _ _
    rw [Nat.pow_succ] at hlt
    apply Nat.lt_of_mul_lt_mul_left (a := den)
    omega

namespace Binary64

/-- The unit for a quotient below a power of two, for which the mantissa has room. -/
theorem exponentFor_le {num den j : Nat} (hj : j < 52)
    (hnum : num < 2 ^ j * den) : exponentFor num den ≤ j - 52 := by
  have hlog : num.log2 ≤ j + den.log2 := by
    rcases Nat.eq_zero_or_pos num with rfl | hpos
    · exact Nat.zero_le _
    · have hden' : den < 2 ^ (den.log2 + 1) := Nat.lt_log2_self
      have hlt : num < 2 ^ (j + den.log2 + 1) := by
        calc num < 2 ^ j * den := hnum
          _ ≤ 2 ^ j * 2 ^ (den.log2 + 1) := Nat.mul_le_mul_left _ (Nat.le_of_lt hden')
          _ = 2 ^ (j + den.log2 + 1) := by rw [← Nat.pow_add, Nat.add_assoc]
      exact Nat.le_of_lt_succ ((Nat.log2_lt (Nat.ne_of_gt hpos)).mpr hlt)
  unfold exponentFor
  dsimp only
  split <;> omega

/-- A quotient below a power of two, with a denominator for which the other bits of the mantissa
are enough, keeps its integer part when it is rounded to a double. -/
theorem truncate?_ofRatio_of_lt (negative : Bool) {num den j : Nat} (hden : 0 < den) (hj : j < 52)
    (hnum : num < 2 ^ j * den) (hlt : den < 2 ^ (53 - j)) :
    truncate? (ofRatio negative num den)
      = some (if negative then -((num / den : Nat) : Int) else ((num / den : Nat) : Int)) := by
  rcases Nat.eq_zero_or_pos num with rfl | hpos
  · rw [Nat.zero_div]
    exact truncate?_ofRatio_zero negative den
  · have hupper := exponentFor_le hj hnum
    obtain ⟨k, hexponent⟩ := Int.exists_eq_neg_ofNat (a := exponentFor num den) (by omega)
    have hunits : den < 2 ^ (k + 1) :=
      Nat.lt_of_lt_of_le hlt (Nat.pow_le_pow_right (by decide) (by omega))
    rw [truncate?_ofRatio negative hpos hexponent (by omega),
      roundHalfEven_div_two_pow hden hunits]

end Binary64

end GrapheneSigner
