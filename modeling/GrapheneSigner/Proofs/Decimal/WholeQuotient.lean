import Mathlib.Algebra.Group.Nat.Defs
import GrapheneSigner.Decimal.Binary64

/-!
# Quotients that are whole

A quotient that is a natural number below 2 to the power 53 is a double as it stands: its mantissa
needs no rounding, and the integer part of the double is the number.
-/

namespace GrapheneSigner

theorem roundHalfEven_mul {den : Nat} (hden : 0 < den) (q : Nat) :
    roundHalfEven (q * den) den = q := by
  have hmod : q * den % den = 0 := Nat.mul_mod_left q den
  unfold roundHalfEven
  rw [Nat.mul_div_cancel q hden, hmod]
  exact if_neg (by omega)

namespace Binary64

theorem inUnits_of_nonpos (num den : Nat) {e : Int} (he : e ≤ 0) :
    inUnits num den e = (num * 2 ^ (-e).toNat, den) := by
  unfold inUnits
  by_cases hzero : 0 ≤ e
  · have h : e = 0 := by omega
    subst h
    simp
  · rw [if_neg hzero, Nat.shiftLeft_eq]

theorem truncate?_finite (negative : Bool) (m : Nat) {e : Int} (he : e ≤ 0) :
    truncate? (.finite negative m e)
      = some (if negative then -((m / 2 ^ (-e).toNat : Nat) : Int)
          else ((m / 2 ^ (-e).toNat : Nat) : Int)) := by
  unfold truncate? ratio?
  by_cases hzero : 0 ≤ e
  · have h : e = 0 := by omega
    subst h
    simp
  · simp [if_neg hzero, Nat.shiftLeft_eq]

/-- The logarithm of a product is at most one more than the sum of the logarithms. -/
theorem log2_mul_le {m n : Nat} (hm : 0 < m) (hn : 0 < n) :
    (m * n).log2 ≤ m.log2 + n.log2 + 1 := by
  have hm' : m < 2 ^ (m.log2 + 1) := Nat.lt_log2_self
  have hn' : n < 2 ^ (n.log2 + 1) := Nat.lt_log2_self
  have hmul : m * n < 2 ^ (m.log2 + n.log2 + 2) := by
    calc m * n < 2 ^ (m.log2 + 1) * 2 ^ (n.log2 + 1) := Nat.mul_lt_mul'' hm' hn'
      _ = 2 ^ (m.log2 + n.log2 + 2) := by rw [← Nat.pow_add]; congr 1; omega
  have hlt : (m * n).log2 < m.log2 + n.log2 + 2 :=
    (Nat.log2_lt (Nat.ne_of_gt (Nat.mul_pos hm hn))).mpr hmul
  omega

/-- The unit for a whole quotient below the bound of mantissas is not above one. -/
theorem exponentFor_le_zero {q den : Nat} (hq : 0 < q) (hbound : q < mantissaBound)
    (hden : 0 < den) :
    exponentFor (q * den) den ≤ 0 := by
  have hlog : q.log2 < 53 := (Nat.log2_lt (Nat.ne_of_gt hq)).mpr hbound
  have hupper : (q * den).log2 ≤ q.log2 + den.log2 + 1 := log2_mul_le hq hden
  unfold exponentFor
  generalize hlow : ((q * den).log2 : Int) - den.log2 - 53 = low
  have hnonpos : low ≤ 0 := by omega
  have hquotient : q * den * 2 ^ (-low).toNat / den = q * 2 ^ (-low).toNat := by
    rw [Nat.mul_right_comm, Nat.mul_div_cancel _ hden]
  simp only [inUnits_of_nonpos _ _ hnonpos, hquotient]
  split
  · omega
  · rename_i hlarge
    have hne : low ≠ 0 := by
      rintro rfl
      simp at hlarge
      omega
    omega

theorem truncate?_ofRatio_zero (negative : Bool) (den : Nat) :
    truncate? (ofRatio negative 0 den)
      = some (if negative then -((0 : Nat) : Int) else ((0 : Nat) : Int)) := by
  unfold ofRatio
  rw [if_pos rfl, truncate?_finite negative 0 (by decide), Nat.zero_div]

/-- The integer part of a quotient in units that are not above one: the mantissa is rounded, and
then cut off at the point. -/
theorem truncate?_ofRatio (negative : Bool) {num den k : Nat} (hnum : 0 < num)
    (hexponent : exponentFor num den = -(k : Int))
    (hfits : k = 0 → roundHalfEven num den ≠ mantissaBound) :
    truncate? (ofRatio negative num den)
      = some (if negative then -((roundHalfEven (num * 2 ^ k) den / 2 ^ k : Nat) : Int)
          else ((roundHalfEven (num * 2 ^ k) den / 2 ^ k : Nat) : Int)) := by
  have hunits : inUnits num den (-(k : Int)) = (num * 2 ^ k, den) := by
    rw [inUnits_of_nonpos _ _ (by omega), Int.neg_neg, Int.toNat_natCast]
  unfold ofRatio
  rw [if_neg (Nat.ne_of_gt hnum), hexponent]
  simp only [hunits]
  by_cases htop : roundHalfEven (num * 2 ^ k) den = mantissaBound
  · -- the mantissa has one bit too many, which is not the case in units of one
    obtain ⟨digits, rfl⟩ := Nat.exists_eq_succ_of_ne_zero fun hzero ↦ hfits hzero (by
      rwa [hzero, Nat.pow_zero, Nat.mul_one] at htop)
    have hstep : (-(-((digits + 1 : Nat) : Int) + 1)).toNat = digits := by omega
    simp only [htop, if_true]
    rw [if_neg (by omega), truncate?_finite negative _ (by omega), hstep, Nat.div_div_eq_div_mul,
      Nat.pow_succ']
  · simp only [if_neg htop]
    rw [if_neg (by omega), truncate?_finite negative _ (by omega), Int.neg_neg, Int.toNat_natCast]

/-- The integer part of a whole quotient is the quotient. -/
theorem truncate?_ofRatio_whole (negative : Bool) {q den : Nat} (hbound : q < mantissaBound)
    (hden : 0 < den) :
    truncate? (ofRatio negative (q * den) den)
      = some (if negative then -(q : Int) else (q : Int)) := by
  rcases Nat.eq_zero_or_pos q with rfl | hq
  · rw [Nat.zero_mul]
    exact truncate?_ofRatio_zero negative den
  · have hfits : roundHalfEven (q * den) den ≠ mantissaBound := by
      rw [roundHalfEven_mul hden]
      exact Nat.ne_of_lt hbound
    obtain ⟨k, hexponent⟩ := Int.exists_eq_neg_ofNat (exponentFor_le_zero hq hbound hden)
    have hround : roundHalfEven (q * den * 2 ^ k) den / 2 ^ k = q := by
      rw [Nat.mul_right_comm, roundHalfEven_mul hden, Nat.mul_div_cancel _ (Nat.two_pow_pos k)]
    rw [truncate?_ofRatio negative (Nat.mul_pos hq hden) hexponent fun _ ↦ hfits, hround]

end Binary64

end GrapheneSigner
