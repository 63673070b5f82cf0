import GrapheneSigner.Proofs.Secp256k1.Signing
import GrapheneSigner.Proofs.Signing.Compact
import GrapheneSigner.Proofs.Wire.Refusal

/-!
# Every signature of a key is recoverable

A compact signature names the one among four candidates that is the public point of the key.  That
there is exactly one holds of the signature that any nonce gives, so that the search for it always
succeeds: a key signs every digest of 32 bytes, and the failure about a key that cannot be recovered
is never met.
-/

namespace GrapheneSigner

open Secp256k1

/-- Integers in range fit into a compact signature. -/
theorem Compact.exists_encode {id r s : ℕ} (hid : id < 4) (hr : r < order) (hs : s < order)
    (compressed : Bool) : ∃ b, encode id r s compressed = .ok b := by
  have horder : order < byteRange 32 := by decide
  rw [encode_natCast hid, if_pos ⟨by omega, by omega⟩]
  exact ⟨_, rfl⟩

namespace KeyPair

/-! ## The public point of a key -/

theorem publicPoint_eq (k : KeyPair) :
    k.publicPoint = Point.ofGroup ((k.secret : ZMod order) • base) := by
  unfold publicPoint
  rw [← ofGroup_base, Point.multiple_ofGroup]
  rfl

/-- The public point is not the identity. -/
theorem exists_candidate (k : KeyPair) :
    ∃ c, Candidate.ofPoint? k.publicPoint = some c := by
  have hne : (k.secret : ZMod order) • base ≠ 0 :=
    smul_ne_zero (scalar_ne_zero k.secret_pos k.secret_lt) base_ne_zero
  cases hpoint : k.publicPoint with
  | identity =>
    rw [publicPoint_eq, Point.ofGroup_eq_identity_iff] at hpoint
    exact absurd hpoint hne
  | finite x y => exact ⟨_, rfl⟩

/-- A key is determined by its public point and the form of it. -/
theorem eq_of_publicPoint {k k' : KeyPair} (hpoint : k.publicPoint = k'.publicPoint)
    (hform : k.compressed = k'.compressed) : k = k' := by
  rw [publicPoint_eq, publicPoint_eq, Point.ofGroup_injective.eq_iff] at hpoint
  have hresidue : residue (⟨k.secret, k.secret_lt⟩ : Scalar) = residue ⟨k'.secret, k'.secret_lt⟩ :=
    smul_left_injective _ base_ne_zero hpoint
  have hsecret : k.secret = k'.secret := congrArg Fin.val (residue_injective hresidue)
  obtain ⟨_, _, _, _⟩ := k
  obtain ⟨_, _, _, _⟩ := k'
  cases hsecret
  cases hform
  rfl

/-! ## The search for the candidate -/

/-- The search succeeds if each candidate can be computed and one of them is the public point. -/
theorem exists_findCandidate {k : KeyPair} {r s : ℤ} {digest : Bytes} {c : Candidate}
    (hpoint : Candidate.ofPoint? k.publicPoint = some c) {ids : List ℕ}
    (htotal : ∀ id ∈ ids, ∃ answer, recover id r s digest = .ok answer)
    (hfound : ∃ id ∈ ids, recover id r s digest = .ok (some c)) :
    ∃ id, k.findCandidate r s digest ids = .ok id := by
  induction ids with
  | nil =>
    obtain ⟨_, hmem, _⟩ := hfound
    cases hmem
  | cons first rest ih =>
    obtain ⟨answer, hanswer⟩ := htotal first List.mem_cons_self
    unfold findCandidate
    rw [hanswer]
    dsimp only
    split
    · exact ⟨first, rfl⟩
    · rename_i hother
      refine ih (fun id hid ↦ htotal id (List.mem_cons_of_mem _ hid)) ?_
      obtain ⟨id, hmem, hid⟩ := hfound
      rcases List.mem_cons.mp hmem with rfl | hmem
      · rw [hanswer] at hid
        cases hid
        exact absurd ⟨rfl, hpoint.symm⟩ hother
      · exact ⟨id, hmem, hid⟩

/-- The number of the candidate of a valid signature is found. -/
theorem exists_recoveryId {k : KeyPair} {digest : Bytes} {signature : Signature}
    (hvalid : signature.Valid (residue (digestScalar digest)) ((k.secret : ZMod order) • base)) :
    ∃ id < 4, k.recoveryId signature.r signature.s digest = .ok id := by
  obtain ⟨c, hc⟩ := k.exists_candidate
  obtain ⟨id, ⟨hid, hrecover⟩, _⟩ := hvalid.existsUnique_recover (k.publicPoint_eq ▸ hc)
  have hlt : ∀ id ∈ [0, 1, 2, 3], id < 4 := by decide
  have hmem : ∀ id < 4, id ∈ [0, 1, 2, 3] := by decide
  obtain ⟨found, hfound⟩ := exists_findCandidate hc
    (fun id hid ↦ ⟨_, recover_natCast (hlt id hid) hvalid.r_pos hvalid.r_lt _ digest⟩)
    ⟨id, hmem id hid, hrecover⟩
  exact ⟨found, hlt found (recover_of_findCandidate hfound).1, hfound⟩

/-! ## Signing -/

/-- A key signs every digest of 32 bytes, and the signature is valid under its public point. -/
theorem exists_sign (k : KeyPair) {digest : Bytes} (hlength : digest.length = 32) :
    ∃ signature, k.sign digest = .ok signature ∧ signature.s ≤ order / 2 ∧
      signature.Valid (residue (digestScalar digest)) ((k.secret : ZMod order) • base) := by
  obtain ⟨signature, hmake, hvalid, hlow⟩ :=
    Signature.exists_make? k.secret_pos k.secret_lt digest
  refine ⟨signature, ?_, hlow, hvalid⟩
  unfold sign
  rw [if_neg (not_not_intro hlength), hmake]

/-- The compact form of a signature whose candidate is known. -/
theorem signCompact_of_recover {k : KeyPair} {digest b : Bytes} (hlength : digest.length = 32)
    {signature : Signature} (hmake : Signature.make? k.secret digest = some signature) {id : ℕ}
    (hid : id < 4) {c : Candidate} (hc : Candidate.ofPoint? k.publicPoint = some c)
    (hrecover : recover id signature.r signature.s digest = .ok (some c))
    (hencode : Compact.encode id signature.r signature.s k.compressed = .ok b) :
    k.signCompact digest = .ok b := by
  obtain ⟨made, hsign, _, hvalid⟩ := k.exists_sign hlength
  have hmade : made = signature := by
    unfold sign at hsign
    rw [if_neg (not_not_intro hlength), hmake] at hsign
    cases hsign
    rfl
  subst hmade
  obtain ⟨found, hfound, hrecoveryId⟩ := exists_recoveryId hvalid
  obtain ⟨_, c', hc', hrecover'⟩ := recover_of_findCandidate hrecoveryId
  rw [hc] at hc'
  cases hc'
  -- there is no other candidate that is the public point
  have hunique := (hvalid.existsUnique_recover (k.publicPoint_eq ▸ hc)).unique
    ⟨hfound, hrecover'⟩ ⟨hid, hrecover⟩
  subst hunique
  exact signCompact_of_steps hsign hrecoveryId hencode

/-- A key signs every digest of 32 bytes. -/
theorem exists_signCompact (k : KeyPair) {digest : Bytes} (hlength : digest.length = 32) :
    ∃ b, k.signCompact digest = .ok b := by
  obtain ⟨c, hc⟩ := k.exists_candidate
  obtain ⟨signature, hsign, _, hvalid⟩ := k.exists_sign hlength
  obtain ⟨id, hid, hrecoveryId⟩ := exists_recoveryId hvalid
  obtain ⟨b, hb⟩ := Compact.exists_encode hid hvalid.r_lt hvalid.s_lt k.compressed
  exact ⟨b, signCompact_of_steps hsign hrecoveryId hb⟩

/-- The steps by which a key signs a digest, if it accepts the first nonce that it draws.  Each step
can be checked by itself. -/
structure Calculation (k : KeyPair) (digest : Bytes) where
  /-- The generator after half of the seeding. -/
  half : Nonce.Generator
  seeded : Nonce.Generator
  nonce : ℕ
  signature : Signature
  id : ℕ
  candidate : Candidate
  half_key : hmac (List.replicate 32 0) (List.replicate 32 1 ++ 0 :: Nonce.seed k.secret digest)
    = half.key := by decide +kernel
  half_value : hmac half.key (List.replicate 32 1) = half.value := by decide +kernel
  seeded_key : hmac half.key (half.value ++ 1 :: Nonce.seed k.secret digest) = seeded.key := by
    decide +kernel
  seeded_value : hmac seeded.key half.value = seeded.value := by decide +kernel
  drawn : ofBigEndian (hmac seeded.key seeded.value) = nonce := by decide +kernel
  in_range : 0 < nonce ∧ nonce < order := by decide
  accepted : Signature.withNonce? k.secret (digestScalar digest) nonce = some signature := by
    decide +kernel
  public_eq : Candidate.ofPoint? k.publicPoint = some candidate := by decide +kernel
  recovered : (recover id signature.r signature.s digest).toOption = some (some candidate) := by
    decide +kernel

/-- A calculation gives the compact signature. -/
theorem Calculation.signCompact {k : KeyPair} {digest b : Bytes} (c : Calculation k digest)
    (hlength : digest.length = 32) (hid : c.id < 4)
    (hencode : Compact.encode c.id c.signature.r c.signature.s k.compressed = .ok b) :
    k.signCompact digest = .ok b := by
  have hseeded : Nonce.Generator.seeded (Nonce.seed k.secret digest)
      = ⟨c.seeded.key, c.seeded.value⟩ :=
    Nonce.Generator.seeded_eq c.half.key c.half.value c.half_key c.half_value c.seeded_key
      c.seeded_value
  have hmake : Signature.make? k.secret digest = some c.signature :=
    Signature.make?_of_draw hseeded c.drawn c.in_range c.accepted
  exact signCompact_of_recover hlength hmake hid c.public_eq
    (eq_ok_of_toOption c.recovered) hencode

/-- The key with another form of the public point signs by the same steps. -/
def Calculation.inForm {k : KeyPair} {digest : Bytes} (c : Calculation k digest)
    (compressed : Bool) : Calculation { k with compressed } digest := { c with }

theorem Calculation.signCompact_inForm {k : KeyPair} {digest b : Bytes} (c : Calculation k digest)
    (compressed : Bool) (hlength : digest.length = 32) (hid : c.id < 4)
    (hencode : Compact.encode c.id c.signature.r c.signature.s compressed = .ok b) :
    KeyPair.signCompact { k with compressed } digest = .ok b :=
  (c.inForm compressed).signCompact hlength hid hencode

/-- Whatever nonce a signature was made with, exactly one of the four candidates is the public
point of the key.  Hence a key signs every digest of 32 bytes: there is a signature, with the lower
one of two opposite scalars, the number of its candidate is found, and it has a compact form. -/
theorem existsUnique_recover_of_sign (k : KeyPair) {digest : Bytes}
    (hlength : digest.length = 32) :
    ∃ c, Candidate.ofPoint? k.publicPoint = some c ∧
      (∀ nonce signature,
        Signature.withNonce? k.secret (digestScalar digest) nonce = some signature →
        ∃! id : ℕ, id < 4 ∧ recover id signature.r signature.s digest = .ok (some c)) ∧
      ∃ signature, k.sign digest = .ok signature ∧ signature.s ≤ order / 2 ∧
        (∃! id : ℕ, id < 4 ∧ recover id signature.r signature.s digest = .ok (some c)) ∧
        ∃ id b, k.recoveryId signature.r signature.s digest = .ok id ∧
          recover id signature.r signature.s digest = .ok (some c) ∧
          k.signCompact digest = .ok b := by
  obtain ⟨c, hc⟩ := k.exists_candidate
  have hgroup : Candidate.ofPoint? (Point.ofGroup ((k.secret : ZMod order) • base)) = some c :=
    k.publicPoint_eq ▸ hc
  obtain ⟨signature, hsign, hlow, hvalid⟩ := k.exists_sign hlength
  obtain ⟨id, hid, hrecoveryId⟩ := exists_recoveryId hvalid
  obtain ⟨_, c', hc', hrecover⟩ := recover_of_findCandidate hrecoveryId
  obtain ⟨b, hb⟩ := Compact.exists_encode hid hvalid.r_lt hvalid.s_lt k.compressed
  rw [hc] at hc'
  cases hc'
  refine ⟨c, hc, ?_, signature, hsign, hlow, hvalid.existsUnique_recover hgroup, id, b,
    hrecoveryId, hrecover, signCompact_of_steps hsign hrecoveryId hb⟩
  intro nonce signature hnonce
  exact (Signature.valid_of_withNonce? hnonce).1.existsUnique_recover hgroup

/-- The least secret signs the digest of zeros. -/
theorem existsUnique_recover_of_sign_zeros :
    (List.replicate 32 (0 : UInt8)).length = 32 ∧
      ∃ signature b, sign ⟨1, true, by decide, by decide⟩ (List.replicate 32 0) = .ok signature ∧
        signCompact ⟨1, true, by decide, by decide⟩ (List.replicate 32 0) = .ok b := by
  obtain ⟨_, _, _, signature, hsign, _, _, _, b, _, _, hb⟩ :=
    existsUnique_recover_of_sign ⟨1, true, by decide, by decide⟩ List.length_replicate
  exact ⟨List.length_replicate, signature, b, hsign, hb⟩

end KeyPair

end GrapheneSigner
