import GrapheneSigner.Proofs.Secp256k1.Recovery

/-!
# Signing gives valid signatures

Whatever nonce is accepted, the signature that it gives is valid, also after the lower one of two
opposite scalars was taken: the opposite scalar goes with the opposite element, which has the same x
coordinate.  Signing never fails, since of the nonces 1 and 2 one is accepted for every digest.
-/

namespace GrapheneSigner.Secp256k1

/-! ## Nonces -/

namespace Nonce

variable {α : Type} {accept : ℕ → Option α} {a : α}

theorem accept_of_search {fuel : ℕ} {g : Generator} (h : search accept fuel g = some a) :
    ∃ k, accept k = some a := by
  induction fuel generalizing g with
  | zero => cases h
  | succ fuel ih =>
    unfold search at h
    dsimp only at h
    split at h
    · rename_i found hfound
      cases h
      split at hfound
      · exact ⟨_, hfound⟩
      · cases hfound
    · exact ih h

theorem first_eq (accept : ℕ → Option α) (secret : ℕ) (digest : Bytes) :
    first accept secret digest
      = (search accept attempts (.seeded (seed secret digest))).or ((accept 1).or (accept 2)) := by
  unfold first
  rw [Option.orElse_eq_orElse, Option.orElse_eq_or, Option.orElse_eq_or]

/-- The result comes from some nonce. -/
theorem accept_of_first {secret : ℕ} {digest : Bytes} (h : first accept secret digest = some a) :
    ∃ k, accept k = some a := by
  rw [first_eq, Option.or_eq_some_iff, Option.or_eq_some_iff] at h
  rcases h with h | ⟨_, h | ⟨_, h⟩⟩
  · exact accept_of_search h
  · exact ⟨1, h⟩
  · exact ⟨2, h⟩

/-- There is a result if one of the nonces 1 and 2 is accepted. -/
theorem exists_first (secret : ℕ) (digest : Bytes) (h : accept 1 ≠ none ∨ accept 2 ≠ none) :
    ∃ a, first accept secret digest = some a := by
  rw [← Option.ne_none_iff_exists', first_eq, Ne, Option.or_eq_none_iff, Option.or_eq_none_iff]
  rintro ⟨_, hone, htwo⟩
  exact h.elim (absurd hone) (absurd htwo)

end Nonce

namespace Signature

/-! ## The lower one of two opposite scalars -/

theorem low_le (s : Scalar) : low s ≤ order / 2 := by
  have hlt := s.isLt
  have hodd : order = 2 * (order / 2) + 1 := by decide
  unfold low
  split <;> omega

theorem low_pos {s : Scalar} (hs : s ≠ 0) : 0 < low s := by
  have hlt := s.isLt
  have hne : s.val ≠ 0 := fun h ↦ hs (Fin.ext h)
  unfold low
  split <;> omega

theorem low_cast (s : Scalar) :
    (low s : ZMod order) = residue s ∨ (low s : ZMod order) = -residue s := by
  unfold low residue
  split
  · right
    rw [Nat.cast_sub s.isLt.le, ZMod.natCast_self, zero_sub]
  · exact .inl rfl

/-! ## One nonce -/

/-- The steps of a signature with a nonce. -/
theorem of_withNonce? {secret : ℕ} {e : Scalar} {k : ℕ} {signature : Signature}
    (h : withNonce? secret e k = some signature) :
    ∃ x y : Coordinate, Point.ofGroup ((k : ZMod order) • base) = .finite x y ∧
      signature.r = x.val % order ∧ 0 < signature.r ∧
      ∃ s : Scalar, s ≠ 0 ∧ signature.s = low s ∧
        residue s = (k : ZMod order)⁻¹ * (residue e + (signature.r : ZMod order) * secret) := by
  unfold withNonce? at h
  dsimp only at h
  rw [← ofGroup_base, Point.multiple_ofGroup, residue_fin_ofNat] at h
  cases hpoint : Point.ofGroup ((k : ZMod order) • base) with
  | identity =>
    rw [hpoint] at h
    cases h
  | finite x y =>
    rw [hpoint] at h
    dsimp only at h
    split at h
    · cases h
    · rename_i hzero
      cases h
      rw [not_or] at hzero
      refine ⟨x, y, rfl, rfl, ?_, _, hzero.2, rfl, ?_⟩
      · exact Nat.pos_of_ne_zero fun hr ↦ hzero.1 (Fin.ext hr)
      · simp only [residue_mul, residue_add, Scalar.residue_inverse, residue_fin_ofNat,
          Fin.val_ofNat, ZMod.natCast_mod]

/-- The signature that a nonce gives is valid, and its second integer is low. -/
theorem valid_of_withNonce? {secret : ℕ} {e : Scalar} {k : ℕ} {signature : Signature}
    (h : withNonce? secret e k = some signature) :
    signature.Valid (residue e) ((secret : ZMod order) • base) ∧ signature.s ≤ order / 2 := by
  obtain ⟨x, y, hpoint, hr, hrpos, s, hs, hlow, hequation⟩ := of_withNonce? h
  have hk : (k : ZMod order) ≠ 0 := by
    intro hk
    rw [hk, zero_smul (ZMod order) base] at hpoint
    cases hpoint
  have hsum : residue s • (k : ZMod order) • base
      = residue e • base + (signature.r : ZMod order) • (secret : ZMod order) • base := by
    rw [hequation, ← mul_smul, ← mul_smul, ← add_smul]
    congr 1
    field_simp
  have hle : signature.s ≤ order / 2 := hlow ▸ low_le s
  refine ⟨⟨hrpos, ?_, hlow ▸ low_pos hs, ?_, ?_⟩, hle⟩
  · rw [hr]
    exact Nat.mod_lt _ (by decide)
  · exact Nat.lt_of_le_of_lt hle (by decide)
  · rcases low_cast s with hcast | hcast
    · refine ⟨_, x, y, hpoint, hr.symm, ?_⟩
      rw [hlow, hcast, hsum]
    · -- the opposite scalar goes with the opposite element
      refine ⟨_, x, -y, Point.ofGroup_neg hpoint, hr.symm, ?_⟩
      rw [hlow, hcast, ← hsum, neg_smul, smul_neg, neg_neg]

/-! ## Some nonce -/

theorem multiple_one : Point.generator.multiple (Fin.ofNat order 1) = .generator := by
  decide +kernel

theorem multiple_two : Point.generator.multiple (Fin.ofNat order 2) = .finite
    ⟨0xC6047F9441ED7D6D3045406E95C07CD85C778E4B8CEF3CA7ABAC09B95C709EE5, by decide⟩
    ⟨0x1AE168FEA63DC339A3C58419466CEAEEF7F632653266D0E1236431A950CFE52A, by decide⟩ := by
  decide +kernel

/-- A nonce is refused only if the scalar of its signature is zero. -/
theorem eq_zero_of_withNonce?_eq_none {secret : ℕ} {e : Scalar} {k : ℕ} {x y : Coordinate}
    (hpoint : Point.generator.multiple (Fin.ofNat order k) = .finite x y)
    (hk : (k : ZMod order) ≠ 0) (hx : Fin.ofNat order x.val ≠ 0)
    (h : withNonce? secret e k = none) :
    residue e + (x.val : ZMod order) * secret = 0 := by
  unfold withNonce? at h
  dsimp only at h
  rw [hpoint] at h
  dsimp only at h
  split at h
  · rename_i hzero
    have hs := residue_eq_zero_iff.mpr (hzero.resolve_left hx)
    simp only [residue_mul, residue_add, Scalar.residue_inverse, residue_fin_ofNat] at hs
    exact (mul_eq_zero.mp hs).resolve_left (inv_ne_zero hk)
  · cases h

/-- Of the nonces 1 and 2 one is accepted. -/
theorem withNonce?_one_or_two {secret : ℕ} (hpos : 0 < secret) (hlt : secret < order) (e : Scalar) :
    withNonce? secret e 1 ≠ none ∨ withNonce? secret e 2 ≠ none := by
  by_contra h
  rw [not_or, not_not, not_not] at h
  have hone := eq_zero_of_withNonce?_eq_none multiple_one
    (scalar_ne_zero (by decide) (by decide)) (by decide) h.1
  have htwo := eq_zero_of_withNonce?_eq_none multiple_two
    (scalar_ne_zero (by decide) (by decide)) (by decide) h.2
  -- the two nonces have different x coordinates, and the secret is not zero
  have hsame := (mul_eq_mul_right_iff.mp (add_left_cancel (hone.trans htwo.symm))).resolve_right
    (scalar_ne_zero hpos hlt)
  exact absurd ((ZMod.natCast_eq_natCast_iff' _ _ _).mp hsame) (by decide)

/-- Every digest is signed, and the signature is valid and low. -/
theorem exists_make? {secret : ℕ} (hpos : 0 < secret) (hlt : secret < order) (digest : Bytes) :
    ∃ signature, make? secret digest = some signature ∧
      signature.Valid (residue (digestScalar digest)) ((secret : ZMod order) • base) ∧
      signature.s ≤ order / 2 := by
  obtain ⟨signature, hsignature⟩ := Nonce.exists_first secret digest
    (withNonce?_one_or_two hpos hlt (digestScalar digest))
  obtain ⟨k, hk⟩ := Nonce.accept_of_first hsignature
  exact ⟨signature, hsignature, valid_of_withNonce? hk⟩

end Signature

end GrapheneSigner.Secp256k1
