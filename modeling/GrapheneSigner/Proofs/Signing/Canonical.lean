import GrapheneSigner.Proofs.Signing.Recoverable

/-!
# Canonical signatures

The 65 bytes of a compact signature hold the number of the candidate, the form of the public point
and both integers, so that all of them are read back.  The five tests of the canonical form look at
single bytes; on a compact signature they are three conditions on the integers: both are less than
half of what fits into 32 bytes, and the first one is no multiple of 256.

The header of a compact signature passes its tests always, and the second integer of a signature
that a key makes is low.  So only the first integer decides whether such a signature is canonical.
-/

namespace GrapheneSigner

/-! ## Single bytes of an integer -/

theorem getD_littleEndian {width i : ℕ} (h : i < width) (n : ℕ) :
    (littleEndian width n).getD i 0 = UInt8.ofNat (n / byteRange i % 256) := by
  induction width generalizing i n with
  | zero => exact absurd h (Nat.not_lt_zero i)
  | succ width ih =>
    cases i with
    | zero => rw [littleEndian, List.getD_cons_zero, byteRange_zero, Nat.div_one]
    | succ i =>
      rw [littleEndian, List.getD_cons_succ, ih (Nat.lt_of_succ_lt_succ h), byteRange_succ,
        Nat.div_div_eq_div_mul]

theorem getD_bigEndian {width i : ℕ} (h : i < width) (n : ℕ) :
    (bigEndian width n).getD i 0 = UInt8.ofNat (n / byteRange (width - 1 - i) % 256) := by
  rw [bigEndian, List.getD_eq_getElem?_getD, List.getElem?_reverse (by simpa using h),
    length_littleEndian, ← List.getD_eq_getElem?_getD, getD_littleEndian (by omega)]

namespace Compact

theorem isHigh_ofNat {m : ℕ} (h : m < 256) : isHigh (UInt8.ofNat m) = decide (128 ≤ m) := by
  have hall : ∀ m < 256, isHigh (UInt8.ofNat m) = decide (128 ≤ m) := by decide +kernel
  exact hall m h

/-- The first byte of an integer of 32 bytes is high if the integer is in the upper half. -/
theorem isHigh_head {n : ℕ} (h : n < 2 ^ 256) :
    isHigh ((bigEndian 32 n).getD 0 0) = decide (2 ^ 255 ≤ n) := by
  have hrange : byteRange 31 = 2 ^ 248 := rfl
  rw [getD_bigEndian (by decide), isHigh_ofNat (Nat.mod_lt _ (by decide)), hrange,
    decide_eq_decide]
  omega

/-- The last byte of an integer is zero if 256 divides it. -/
theorem last_eq_zero (n : ℕ) : ((bigEndian 32 n).getD 31 0 == 0) = decide (n % 256 = 0) := by
  have hzero : UInt8.ofNat (n % 256) = 0 ↔ n % 256 = 0 := by
    rw [← UInt8.toNat_inj, UInt8.toNat_ofNat', UInt8.toNat_zero]
    omega
  rw [getD_bigEndian (by decide), byteRange_zero, Nat.div_one, Bool.eq_iff_iff, beq_iff_eq, hzero,
    decide_eq_true_iff]

/-! ## Reading a compact signature -/

/-- What a compact signature holds. -/
structure Fields where
  id : ℕ
  compressed : Bool
  r : ℕ
  s : ℕ
  deriving DecidableEq

/-- The fields of a compact signature, read off its bytes. -/
def decode? (b : Bytes) : Option Fields :=
  if b.length = size ∧ 27 ≤ header b ∧ header b < 35 then
    some ⟨(header b - 27) % 4, (header b - 27).testBit 2, first b, second b⟩
  else none

variable {id r s : ℕ} {compressed : Bool} {b : Bytes}

/-- The fields of a compact signature are read back. -/
theorem decode?_of_encode (hid : id < 4) (h : encode id r s compressed = .ok b) :
    decode? b = some ⟨id, compressed, r, s⟩ := by
  obtain ⟨hlength, hheader, hfirst, hsecond⟩ := parts_of_encode hid h
  have hform : ∀ id < 4, ∀ compressed : Bool,
      (27 + id + (if compressed then 4 else 0) - 27) % 4 = id ∧
      (27 + id + (if compressed then 4 else 0) - 27).testBit 2 = compressed ∧
      27 ≤ 27 + id + (if compressed then 4 else 0) ∧
      27 + id + (if compressed then 4 else 0) < 35 := by decide
  obtain ⟨hlow, hflag, hle, hlt⟩ := hform id hid compressed
  unfold decode?
  rw [hheader, hfirst, hsecond, if_pos ⟨hlength, hle, hlt⟩, hlow, hflag]

/-- The header tests pass on every compact signature, and the other tests are conditions on the
integers. -/
theorem tests_of_encode (hid : id < 4) (h : encode id r s compressed = .ok b) :
    (b.getD 0 0 == 0) = false ∧ isHigh (b.getD 0 0) = false ∧
      isHigh (b.getD 1 0) = decide (2 ^ 255 ≤ r) ∧ (b.getD 32 0 == 0) = decide (r % 256 = 0) ∧
      isHigh (b.getD 33 0) = decide (2 ^ 255 ≤ s) := by
  obtain ⟨hr, hs, rfl⟩ := eq_of_encode hid h
  have hheader : ∀ id < 4, ∀ compressed : Bool,
      (UInt8.ofNat (27 + id + (if compressed then 4 else 0)) == 0) = false ∧
      isHigh (UInt8.ofNat (27 + id + (if compressed then 4 else 0))) = false := by decide
  -- the bytes 1 to 32 belong to the first integer, and those from 33 on to the second
  have hbytes : ∀ i < 32, ∀ x : UInt8,
      (x :: bigEndian 32 r ++ bigEndian 32 s).getD (i + 1) 0 = (bigEndian 32 r).getD i 0 := by
    intro i hi x
    rw [List.cons_append, List.getD_cons_succ, List.getD_eq_getElem?_getD,
      List.getElem?_append_left (by simpa using hi), List.getD_eq_getElem?_getD]
  have hsecond : ∀ x : UInt8,
      (x :: bigEndian 32 r ++ bigEndian 32 s).getD 33 0 = (bigEndian 32 s).getD 0 0 := by
    intro x
    rw [List.cons_append, List.getD_cons_succ, List.getD_eq_getElem?_getD,
      List.getElem?_append_right (by simp), length_bigEndian, List.getD_eq_getElem?_getD]
  refine ⟨(hheader id hid compressed).1, (hheader id hid compressed).2, ?_, ?_, ?_⟩
  · rw [hbytes 0 (by decide), isHigh_head hr]
  · rw [hbytes 31 (by decide), last_eq_zero]
  · rw [hsecond, isHigh_head hs]

/-- A compact signature is canonical if both integers are in the lower half and the first one is no
multiple of 256. -/
theorem isCanonical_iff_of_encode (hid : id < 4) (h : encode id r s compressed = .ok b) :
    isCanonical b = true ↔ r < 2 ^ 255 ∧ r % 256 ≠ 0 ∧ s < 2 ^ 255 := by
  obtain ⟨hzero, hhigh, hfirst, hlast, hsecond⟩ := tests_of_encode hid h
  unfold isCanonical
  rw [hzero, hhigh, hfirst, hlast, hsecond, beq_iff_eq.mpr (parts_of_encode hid h).1]
  simp only [Bool.true_and, Bool.false_or, Bool.not_or, Bool.and_eq_true, Bool.not_eq_true',
    decide_eq_false_iff_not, Nat.not_le, and_assoc, ne_eq]

end Compact

open Secp256k1

/-- The integers of a low signature fit, and the second one is in the lower half. -/
theorem KeyPair.exists_encode_of_sign (k : KeyPair) {digest : Bytes} (h : digest.length = 32) :
    ∃ signature id b, k.sign digest = .ok signature ∧ signature.s < 2 ^ 255 ∧ id < 4 ∧
      k.recoveryId signature.r signature.s digest = .ok id ∧
      Compact.encode id signature.r signature.s k.compressed = .ok b ∧
      k.signCompact digest = .ok b := by
  obtain ⟨signature, hsign, hlow, hvalid⟩ := k.exists_sign h
  obtain ⟨id, hid, hrecoveryId⟩ := exists_recoveryId hvalid
  obtain ⟨b, hb⟩ := Compact.exists_encode hid hvalid.r_lt hvalid.s_lt k.compressed
  have hhalf : order / 2 < 2 ^ 255 := by decide
  exact ⟨signature, id, b, hsign, hlow.trans_lt hhalf, hid, hrecoveryId, hb,
    signCompact_of_steps hsign hrecoveryId hb⟩

/-- The compact form is lossless, and its canonical form is a condition on the integers.

Every candidate, form and pair of integers of 32 bytes has a compact signature of 65 bytes, from
which they are read back, and no other ones have the same.  It is canonical exactly if both integers
are in the lower half and the first one is no multiple of 256.

A key signs every digest of 32 bytes, and the compact signature holds the integers of the signature,
the number of its candidate and the form of the key.  The tests of the header and of the second
integer never refuse it: it is refused exactly if the first integer is in the upper half or a
multiple of 256. -/
theorem Compact.lossless_and_canonical_iff :
    (∀ id r s : ℕ, id < 4 → r < 2 ^ 256 → s < 2 ^ 256 → ∀ compressed,
      ∃ b, encode id r s compressed = .ok b ∧ b.length = 65 ∧
        decode? b = some ⟨id, compressed, r, s⟩ ∧
        (∀ id' r' s' : ℕ, id' < 4 → ∀ compressed', encode id' r' s' compressed' = .ok b →
          id' = id ∧ compressed' = compressed ∧ r' = r ∧ s' = s) ∧
        (isCanonical b = true ↔ r < 2 ^ 255 ∧ r % 256 ≠ 0 ∧ s < 2 ^ 255)) ∧
    ∀ (k : KeyPair) (digest : Bytes), digest.length = 32 →
      ∃ signature id b, k.sign digest = .ok signature ∧ k.signCompact digest = .ok b ∧
        k.recoveryId signature.r signature.s digest = .ok id ∧
        decode? b = some ⟨id, k.compressed, signature.r, signature.s⟩ ∧
        (b.getD 0 0 == 0) = false ∧ isHigh (b.getD 0 0) = false ∧ isHigh (b.getD 33 0) = false ∧
        (isCanonical b = false ↔ 2 ^ 255 ≤ signature.r ∨ signature.r % 256 = 0) := by
  constructor
  · intro id r s hid hr hs compressed
    have hrange : byteRange 32 = 2 ^ 256 := rfl
    have hencode := encode_natCast hid r s compressed
    rw [if_pos ⟨hrange ▸ hr, hrange ▸ hs⟩] at hencode
    have hdecode := decode?_of_encode hid hencode
    refine ⟨_, hencode, (parts_of_encode hid hencode).1, hdecode, ?_,
      isCanonical_iff_of_encode hid hencode⟩
    intro id' r' s' hid' compressed' hencode'
    have hsame := (decode?_of_encode hid' hencode').symm.trans hdecode
    rw [Option.some.injEq, Fields.mk.injEq] at hsame
    exact hsame
  · intro k digest hlength
    obtain ⟨signature, id, b, hsign, hlow, hid, hrecoveryId, hencode, hcompact⟩ :=
      k.exists_encode_of_sign hlength
    obtain ⟨hzero, hhigh, _, _, hsecond⟩ := tests_of_encode hid hencode
    rw [decide_eq_false (Nat.not_le.mpr hlow)] at hsecond
    refine ⟨signature, id, b, hsign, hcompact, hrecoveryId, decode?_of_encode hid hencode, hzero,
      hhigh, hsecond, ?_⟩
    rw [← Bool.not_eq_true, isCanonical_iff_of_encode hid hencode]
    omega

/-- The greatest integers that are canonical, and the next ones; and the least secret with the digest
of zeros. -/
theorem Compact.lossless_and_canonical_iff_half :
    let half : ℕ := 2 ^ 255
    let k : KeyPair := ⟨1, true, by decide, by decide⟩
    (∃ b, encode (3 : ℕ) (half - 1 : ℕ) (half - 1 : ℕ) true = .ok b ∧ b.length = 65 ∧
      decode? b = some ⟨3, true, half - 1, half - 1⟩ ∧ isCanonical b = true) ∧
    (∃ b, encode (0 : ℕ) half (half - 1 : ℕ) false = .ok b ∧ isCanonical b = false) ∧
    (∃ b, encode (0 : ℕ) (half - 256 : ℕ) (half - 1 : ℕ) false = .ok b ∧ isCanonical b = false) ∧
    (∃ b, encode (0 : ℕ) (half - 1 : ℕ) half false = .ok b ∧ isCanonical b = false) ∧
    (List.replicate 32 (0 : UInt8)).length = 32 ∧ ∃ signature b,
      k.sign (List.replicate 32 0) = .ok signature ∧
      k.signCompact (List.replicate 32 0) = .ok b ∧
      (isCanonical b = false ↔ 2 ^ 255 ≤ signature.r ∨ signature.r % 256 = 0) := by
  intro half k
  obtain ⟨hall, hkeys⟩ := lossless_and_canonical_iff
  obtain ⟨b, hb, hlength, hdecode, _, hcanonical⟩ :=
    hall 3 (half - 1) (half - 1) (by decide) (by decide) (by decide) true
  obtain ⟨c, hc, _, _, _, hfirst⟩ :=
    hall 0 half (half - 1) (by decide) (by decide) (by decide) false
  obtain ⟨d, hd, _, _, _, hlast⟩ :=
    hall 0 (half - 256) (half - 1) (by decide) (by decide) (by decide) false
  obtain ⟨e, he, _, _, _, hsecond⟩ :=
    hall 0 (half - 1) half (by decide) (by decide) (by decide) false
  obtain ⟨signature, _, f, hsign, hf, _, _, _, _, _, hrefused⟩ :=
    hkeys k (List.replicate 32 0) List.length_replicate
  refine ⟨⟨b, hb, hlength, hdecode, hcanonical.mpr (by decide)⟩, ⟨c, hc, ?_⟩, ⟨d, hd, ?_⟩,
    ⟨e, he, ?_⟩, List.length_replicate, signature, f, hsign, hf, hrefused⟩
  · exact Bool.eq_false_iff.mpr (mt hfirst.mp (by decide))
  · exact Bool.eq_false_iff.mpr (mt hlast.mp (by decide))
  · exact Bool.eq_false_iff.mpr (mt hsecond.mp (by decide))

end GrapheneSigner
