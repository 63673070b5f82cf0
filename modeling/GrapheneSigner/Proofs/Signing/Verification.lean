import GrapheneSigner.Proofs.Signing.Recoverable

/-!
# Verification

A verifier asks for two integers between zero and the order, and compares the first one with the x
coordinate of a sum: of the generator, multiplied by the quotient of the digest and the second
integer, and of the public point, multiplied by the quotient of the two integers.  The signatures
that it accepts are the valid ones.

With a signature it accepts the one with the opposite second integer, because the sum changes into
its opposite, which has the same x coordinate.  So it does not matter to a verifier which of two
opposite scalars is taken, and signing takes the lower one.
-/

namespace GrapheneSigner

namespace Secp256k1

namespace Signature

/-! ## The check of a verifier -/

/-- The point whose x coordinate a verifier compares. -/
def verifier (signature : Signature) (digest : Bytes) (p : Point) : Point :=
  let inv := Scalar.inverse (Fin.ofNat order signature.s)
  Point.combination (inv * digestScalar digest) .generator (inv * Fin.ofNat order signature.r) p

/-- A verifier accepts a signature of a digest under a public point. -/
def verifies (signature : Signature) (digest : Bytes) (p : Point) : Bool :=
  decide (0 < signature.r ∧ signature.r < order ∧ 0 < signature.s ∧ signature.s < order) &&
    match signature.verifier digest p with
    | .identity => false
    | .finite x _ => x.val % order == signature.r

variable {signature : Signature} {digest : Bytes} {Q : curve.Point}

/-- The element that a verifier computes. -/
theorem verifier_ofGroup (signature : Signature) (digest : Bytes) (Q : curve.Point) :
    signature.verifier digest (Point.ofGroup Q) = Point.ofGroup ((signature.s : ZMod order)⁻¹ •
      (residue (digestScalar digest) • base + (signature.r : ZMod order) • Q)) := by
  unfold verifier
  rw [← ofGroup_base]
  dsimp only
  rw [Point.combination_ofGroup, residue_mul, residue_mul, Scalar.residue_inverse,
    residue_fin_ofNat, residue_fin_ofNat, smul_add, smul_smul, smul_smul]

/-- What a verifier accepts is in range, and the point that it computes has the first integer as its
x coordinate. -/
theorem verifies_iff {p : Point} : signature.verifies digest p = true ↔
    (0 < signature.r ∧ signature.r < order ∧ 0 < signature.s ∧ signature.s < order) ∧
      ∃ x y, signature.verifier digest p = .finite x y ∧ x.val % order = signature.r := by
  unfold verifies
  rw [Bool.and_eq_true, decide_eq_true_eq]
  apply and_congr_right
  intro _
  cases signature.verifier digest p with
  | identity => simp
  | finite x y => simp

/-- A verifier accepts the valid signatures. -/
theorem verifies_ofGroup_iff : signature.verifies digest (Point.ofGroup Q) = true ↔
    signature.Valid (residue (digestScalar digest)) Q := by
  rw [verifies_iff, verifier_ofGroup]
  constructor
  · intro h
    obtain ⟨⟨hrpos, hrlt, hspos, hslt⟩, x, y, hpoint, hx⟩ := h
    refine ⟨hrpos, hrlt, hspos, hslt, _, x, y, hpoint, hx, ?_⟩
    exact smul_inv_smul₀ (scalar_ne_zero hspos hslt) _
  · intro h
    obtain ⟨R, x, y, hR, hx, hequation⟩ := h.equation
    refine ⟨⟨h.r_pos, h.r_lt, h.s_pos, h.s_lt⟩, x, y, ?_, hx⟩
    rw [← hequation, inv_smul_smul₀ (scalar_ne_zero h.s_pos h.s_lt), hR]

/-- With a signature the one with the opposite second integer is valid. -/
theorem Valid.opposite {r s : ℕ} {e : ZMod order} (h : Valid ⟨r, s⟩ e Q) :
    Valid ⟨r, order - s⟩ e Q := by
  have hpos : 0 < s := h.s_pos
  have hlt : s < order := h.s_lt
  obtain ⟨R, x, y, hR, hx, hequation⟩ := h.equation
  have hcast : ((order - s : ℕ) : ZMod order) = -(s : ZMod order) := by
    rw [Nat.cast_sub hlt.le, ZMod.natCast_self, zero_sub]
  refine ⟨h.r_pos, h.r_lt, Nat.sub_pos_of_lt hlt, Nat.sub_lt (by decide) hpos, -R, x, -y,
    Point.ofGroup_neg hR, hx, ?_⟩
  calc ((order - s : ℕ) : ZMod order) • -R
      = (s : ZMod order) • R := by rw [hcast, neg_smul, smul_neg, neg_neg]
    _ = e • base + (r : ZMod order) • Q := hequation

/-! ## The equation of signing -/

/-- The two scalars that some nonce gives for a secret and a digest, before the lower one of two
opposite scalars is taken: the x coordinate of a multiple of the generator, and the solution of the
equation of signing. -/
structure Raw (secret : ℕ) (e r s : Scalar) : Prop where
  r_ne_zero : r ≠ 0
  s_ne_zero : s ≠ 0
  equation : ∃ (nonce : Scalar) (x y : Coordinate), Point.generator.multiple nonce = .finite x y ∧
    r = Fin.ofNat order x.val ∧ nonce * s = e + r * Fin.ofNat order secret

theorem residue_ne_zero_of_multiple {nonce : Scalar} {x y : Coordinate}
    (h : Point.generator.multiple nonce = .finite x y) : residue nonce ≠ 0 := by
  intro hzero
  rw [← ofGroup_base, Point.multiple_ofGroup, hzero, zero_smul (ZMod order) base] at h
  cases h

/-- A nonce that is accepted gives two scalars, and its signature has the lower one of the second
and its opposite. -/
theorem exists_raw_of_withNonce? {secret k : ℕ} {e : Scalar}
    (h : withNonce? secret e k = some signature) :
    ∃ r s, Raw secret e r s ∧ signature = ⟨r.val, low s⟩ := by
  unfold withNonce? at h
  dsimp only at h
  cases hpoint : Point.generator.multiple (Fin.ofNat order k) with
  | identity =>
    rw [hpoint] at h
    cases h
  | finite x y =>
    rw [hpoint] at h
    dsimp only at h
    split at h
    · cases h
    · rename_i hzero
      cases h
      rw [not_or] at hzero
      refine ⟨_, _, ⟨hzero.1, hzero.2, _, x, y, hpoint, rfl, ?_⟩, rfl⟩
      apply residue_injective
      rw [residue_mul, residue_mul, Scalar.residue_inverse,
        mul_inv_cancel_left₀ (residue_ne_zero_of_multiple hpoint)]

/-- Two scalars that satisfy the equation of signing are given by some nonce. -/
theorem Raw.exists_withNonce? {secret : ℕ} {e r s : Scalar} (h : Raw secret e r s) :
    ∃ k, withNonce? secret e k = some ⟨r.val, low s⟩ := by
  obtain ⟨nonce, x, y, hpoint, hr, hequation⟩ := h.equation
  have hnonce : Fin.ofNat order nonce.val = nonce := Fin.ext (Nat.mod_eq_of_lt nonce.isLt)
  have hs : Scalar.inverse nonce * (e + r * Fin.ofNat order secret) = s := by
    apply residue_injective
    rw [← hequation, residue_mul, residue_mul, Scalar.residue_inverse,
      inv_mul_cancel_left₀ (residue_ne_zero_of_multiple hpoint)]
  refine ⟨nonce.val, ?_⟩
  unfold withNonce?
  dsimp only
  rw [hnonce, hpoint]
  dsimp only
  rw [← hr, hs, if_neg (not_or.mpr ⟨h.r_ne_zero, h.s_ne_zero⟩)]

/-- Of the two scalars of a nonce the second one, its opposite and the lower one of both give valid
signatures. -/
theorem Raw.valid {secret : ℕ} {e r s : Scalar} (h : Raw secret e r s) :
    Valid ⟨r.val, low s⟩ (residue e) ((secret : ZMod order) • base) ∧
      Valid ⟨r.val, s.val⟩ (residue e) ((secret : ZMod order) • base) ∧
      Valid ⟨r.val, order - s.val⟩ (residue e) ((secret : ZMod order) • base) := by
  obtain ⟨k, hk⟩ := h.exists_withNonce?
  have hlow : Valid ⟨r.val, low s⟩ (residue e) ((secret : ZMod order) • base) :=
    (valid_of_withNonce? hk).1
  have hopposite := hlow.opposite
  refine ⟨hlow, ?_⟩
  unfold low at hlow hopposite
  by_cases hhigh : order / 2 < s.val
  · rw [if_pos hhigh] at hlow hopposite
    rw [Nat.sub_sub_self s.isLt.le] at hopposite
    exact ⟨hopposite, hlow⟩
  · rw [if_neg hhigh] at hlow hopposite
    exact ⟨hlow, hopposite⟩

end Signature

end Secp256k1

open Secp256k1

namespace KeyPair

variable {digest : Bytes}

/-- What is valid under the public point of a key is what a verifier accepts under it. -/
theorem verifies_publicPoint_iff (k : KeyPair) {signature : Signature} :
    signature.verifies digest k.publicPoint = true ↔
      signature.Valid (residue (digestScalar digest)) ((k.secret : ZMod order) • base) := by
  rw [publicPoint_eq, Signature.verifies_ofGroup_iff]

/-- A key signs a digest of 32 bytes with the two scalars of some nonce. -/
theorem exists_raw_of_sign (k : KeyPair) (hlength : digest.length = 32) :
    ∃ r s, Signature.Raw k.secret (digestScalar digest) r s ∧
      k.sign digest = .ok ⟨r.val, Signature.low s⟩ := by
  obtain ⟨signature, hmake, _⟩ := Signature.exists_make? k.secret_pos k.secret_lt digest
  obtain ⟨nonce, hnonce⟩ := Nonce.accept_of_first hmake
  obtain ⟨r, s, hraw, hsignature⟩ := Signature.exists_raw_of_withNonce? hnonce
  refine ⟨r, s, hraw, ?_⟩
  unfold sign
  rw [if_neg (not_not_intro hlength), hmake, hsignature]

/-- Signing gives valid signatures whose second integer is in the lower half.  Whichever scalars
satisfy the equation of signing, the signature with the lower one of the second and its opposite is
in range and accepted by a verifier, as are the signatures with either of both; and a key signs every
digest of 32 bytes with such scalars. -/
theorem verifies_of_sign (k : KeyPair) (hlength : digest.length = 32) :
    (∀ r s, Signature.Raw k.secret (digestScalar digest) r s →
      (1 ≤ r.val ∧ r.val < order) ∧
      (1 ≤ Signature.low s ∧ Signature.low s ≤ (order - 1) / 2) ∧
      Signature.verifies ⟨r.val, Signature.low s⟩ digest k.publicPoint = true ∧
      Signature.verifies ⟨r.val, s.val⟩ digest k.publicPoint = true ∧
      Signature.verifies ⟨r.val, order - s.val⟩ digest k.publicPoint = true) ∧
    ∃ r s, Signature.Raw k.secret (digestScalar digest) r s ∧
      k.sign digest = .ok ⟨r.val, Signature.low s⟩ := by
  refine ⟨?_, k.exists_raw_of_sign hlength⟩
  intro r s hraw
  obtain ⟨hlow, hsame, hopposite⟩ := hraw.valid
  have hhalf : Signature.low s ≤ (order - 1) / 2 := Signature.low_le s
  exact ⟨⟨hlow.r_pos, hlow.r_lt⟩, ⟨hlow.s_pos, hhalf⟩, k.verifies_publicPoint_iff.mpr hlow,
    k.verifies_publicPoint_iff.mpr hsame, k.verifies_publicPoint_iff.mpr hopposite⟩

/-- With the secret 2 and the nonce 1 the second scalar for the digest of zeros is twice the x
coordinate of the generator, which is in the upper half, so that its opposite is taken. -/
theorem verifies_of_sign_opposite :
    let k : KeyPair := ⟨2, true, by decide, by decide⟩
    let digest : Bytes := List.replicate 32 0
    let r : Scalar := ⟨0x79BE667EF9DCBBAC55A06295CE870B07029BFCDB2DCE28D959F2815B16F81798, by decide⟩
    digest.length = 32 ∧ Signature.Raw k.secret (digestScalar digest) r (r + r) ∧
      order / 2 < (r + r).val ∧ Signature.low (r + r) = order - (r + r).val ∧
      Signature.verifies ⟨r.val, order - (r + r).val⟩ digest k.publicPoint = true ∧
      ∃ signature, k.sign digest = .ok signature := by
  intro k digest r
  have hlength : digest.length = 32 := List.length_replicate
  have hraw : Signature.Raw k.secret (digestScalar digest) r (r + r) :=
    ⟨by decide, by decide, Fin.ofNat order 1, _, _, Signature.multiple_one, by decide, by decide⟩
  obtain ⟨hall, _, _, _, hsign⟩ := k.verifies_of_sign hlength
  exact ⟨hlength, hraw, by decide, by decide, (hall r (r + r) hraw).2.2.2.2, _, hsign⟩

end KeyPair

end GrapheneSigner
