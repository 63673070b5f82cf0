import GrapheneSigner.Proofs.Wire.Integer
import GrapheneSigner.Signing.Compact

/-!
# What a compact signature says

The header, the two integers and the form of the public point can be read off the 65 bytes of a
compact signature.  `Compact.SignedBy` says by them alone that a byte string is a canonical
signature of a digest by a key, and every signature that a key makes is one if it is canonical.
-/

namespace GrapheneSigner

namespace Compact

/-! ## Reading the bytes -/

/-- The number in the header. -/
def header (b : Bytes) : Nat := (b.getD 0 0).toNat

/-- The first integer: bytes 1 to 32. -/
def first (b : Bytes) : Nat := ofBigEndian ((b.drop 1).take 32)

/-- The second integer: bytes 33 to 64. -/
def second (b : Bytes) : Nat := ofBigEndian ((b.drop 33).take 32)

theorem field?_natCast (n : Nat) :
    field? n = if n < byteRange 32 then some (bigEndian 32 n) else none := by
  unfold field?
  by_cases h : n < byteRange 32
  · rw [if_pos (by omega), if_pos h, Int.toNat_natCast]
  · rw [if_neg (by omega), if_neg h]

theorem header_eq (id : Nat) (compressed : Bool) :
    headerBase + (id : Int) + (if compressed then compressedFlag else 0)
      = (27 + id + (if compressed then 4 else 0) : Nat) := by
  cases compressed <;> simp [headerBase, compressedFlag]

/-- The compact form of natural numbers: there is one if both integers fit. -/
theorem encode_natCast {id : Nat} (hid : id < 4) (r s : Nat) (compressed : Bool) :
    encode id r s compressed = if r < byteRange 32 ∧ s < byteRange 32 then
        .ok (UInt8.ofNat (27 + id + (if compressed then 4 else 0)) :: bigEndian 32 r
          ++ bigEndian 32 s)
      else .error (.foreign .overflow) := by
  have hlt : 27 + id + (if compressed then 4 else 0) < 256 := by
    split <;> omega
  unfold encode
  rw [header_eq]
  dsimp only
  rw [if_pos (by omega), field?_natCast, field?_natCast, Int.toNat_natCast]
  by_cases hr : r < byteRange 32
  · by_cases hs : s < byteRange 32
    · rw [if_pos hr, if_pos hs, if_pos (And.intro hr hs)]
    · rw [if_pos hr, if_neg hs, if_neg (mt And.right hs)]
  · rw [if_neg hr, if_neg (mt And.left hr)]

/-- What a compact signature consists of, if the integers fit. -/
theorem eq_of_encode {id r s : Nat} {compressed : Bool} {b : Bytes} (hid : id < 4)
    (h : encode id r s compressed = .ok b) :
    r < byteRange 32 ∧ s < byteRange 32 ∧
      b = UInt8.ofNat (27 + id + (if compressed then 4 else 0)) :: bigEndian 32 r
        ++ bigEndian 32 s := by
  rw [encode_natCast hid] at h
  split at h
  · rename_i hfits
    cases h
    exact ⟨hfits.1, hfits.2, rfl⟩
  · cases h

/-- The parts of a compact signature are read back from its bytes. -/
theorem parts_of_encode {id r s : Nat} {compressed : Bool} {b : Bytes} (hid : id < 4)
    (h : encode id r s compressed = .ok b) :
    b.length = size ∧ header b = 27 + id + (if compressed then 4 else 0) ∧
      first b = r ∧ second b = s := by
  obtain ⟨hr, hs, rfl⟩ := eq_of_encode hid h
  have hlt : 27 + id + (if compressed then 4 else 0) < 256 := by
    split <;> omega
  refine ⟨by simp [size], ?_, ?_, ?_⟩
  · simp only [header, List.cons_append, List.getD_cons_zero, UInt8.toNat_ofNat']
    omega
  · simp [first, ofBigEndian_bigEndian hr]
  · have htake : (bigEndian 32 s).take 32 = bigEndian 32 s :=
      List.take_of_length_le (by simp)
    simp [second, htake, ofBigEndian_bigEndian hs]

/-- The parts of 65 bytes. -/
theorem parts?_of_length {b : Bytes} (h : b.length = size) :
    parts? b = some ⟨b.getD 0 0, first b, second b⟩ := by
  cases b with
  | nil => cases h
  | cons header rest =>
    have hrest : rest.length = 64 := Nat.succ.inj h
    have htake : (rest.drop 32).take 32 = rest.drop 32 := by
      apply List.take_of_length_le
      rw [List.length_drop]
      omega
    unfold parts? first second
    rw [List.drop_succ_cons, List.drop_succ_cons, List.drop_zero, htake]
    rfl

/-- A byte string is a canonical signature of a digest by a key: its header holds the form of the
public point and a number by which the public point of the key is recovered. -/
structure SignedBy (k : KeyPair) (digest b : Bytes) : Prop where
  length_eq : b.length = size
  canonical : isCanonical b = true
  base_le : 27 ≤ header b
  compressed_eq : (header b - 27).testBit 2 = k.compressed
  recovers : ∃ candidate, Secp256k1.Candidate.ofPoint? k.publicPoint = some candidate ∧
    Secp256k1.recover ((header b - 27) % 4 : Nat) (first b) (second b) digest
      = .ok (some candidate)

end Compact

namespace Secp256k1

open Nonce

/-- The generator is seeded in two steps, the first of which gives a key and a value. -/
theorem Nonce.Generator.seeded_eq (key value : Bytes) {seed key' value' : Bytes}
    (hkey : hmac (List.replicate 32 0) (List.replicate 32 1 ++ 0 :: seed) = key)
    (hvalue : hmac key (List.replicate 32 1) = value)
    (hkey' : hmac key (value ++ 1 :: seed) = key') (hvalue' : hmac key' value = value') :
    seeded seed = ⟨key', value'⟩ := by
  subst hkey hvalue hkey' hvalue'
  rfl

/-- A first draw that is in range and accepted ends the search for a nonce. -/
theorem Nonce.search_of_draw {α : Type} {accept : Nat → Option α} {fuel k : Nat} {g : Generator}
    {a : α} (hdraw : ofBigEndian (hmac g.key g.value) = k) (hrange : 0 < k ∧ k < order)
    (haccept : accept k = some a) : search accept (fuel + 1) g = some a := by
  subst hdraw
  unfold search Generator.draw
  simp only [if_pos hrange, haccept]

/-- A first draw that is in range and gives a signature is the nonce of the digest. -/
theorem Signature.make?_of_draw {secret k : Nat} {digest : Bytes} {g : Generator}
    {signature : Signature} (hseeded : .seeded (seed secret digest) = g)
    (hdraw : ofBigEndian (hmac g.key g.value) = k) (hrange : 0 < k ∧ k < order)
    (haccept : withNonce? secret (digestScalar digest) k = some signature) :
    make? secret digest = some signature := by
  have hsearch : search (withNonce? secret (digestScalar digest)) attempts
      (.seeded (seed secret digest)) = some signature := by
    rw [hseeded]
    exact search_of_draw hdraw hrange haccept
  unfold make? first
  rw [hsearch, Option.orElse_eq_orElse, Option.orElse_some]

end Secp256k1

namespace KeyPair

/-- The candidate that is found recovers the public point of the key. -/
theorem recover_of_findCandidate {k : KeyPair} {r s : Int} {digest : Bytes} {ids : List Nat}
    {id : Nat} (h : k.findCandidate r s digest ids = .ok id) :
    id ∈ ids ∧ ∃ candidate, Secp256k1.Candidate.ofPoint? k.publicPoint = some candidate ∧
      Secp256k1.recover id r s digest = .ok (some candidate) := by
  induction ids with
  | nil => cases h
  | cons first rest ih =>
    unfold findCandidate at h
    cases hrecover : Secp256k1.recover first r s digest with
    | error fault => simp [hrecover] at h
    | ok candidate =>
      simp only [hrecover] at h
      split at h
      · rename_i hfound
        cases h
        obtain ⟨c, rfl⟩ := Option.isSome_iff_exists.mp hfound.1
        exact ⟨List.mem_cons_self, c, hfound.2.symm, hrecover⟩
      · obtain ⟨hmem, hpoint⟩ := ih h
        exact ⟨List.mem_cons_of_mem _ hmem, hpoint⟩

/-- The steps of a compact signature. -/
theorem signCompact_of_steps {k : KeyPair} {digest b : Bytes} {signature : Secp256k1.Signature}
    {id : Nat} (hsign : k.sign digest = .ok signature)
    (hid : k.recoveryId signature.r signature.s digest = .ok id)
    (hencode : Compact.encode id signature.r signature.s k.compressed = .ok b) :
    k.signCompact digest = .ok b := by
  unfold signCompact
  simp only [hsign, hid, hencode, bind, Except.bind]

/-- A canonical signature that a key makes says so. -/
theorem signedBy_of_signCompact {k : KeyPair} {digest b : Bytes}
    (h : k.signCompact digest = .ok b) (hcanonical : Compact.isCanonical b = true) :
    Compact.SignedBy k digest b := by
  unfold signCompact at h
  cases hsign : k.sign digest with
  | error failure => simp [hsign, bind, Except.bind] at h
  | ok signature =>
    cases hid : k.recoveryId signature.r signature.s digest with
    | error failure => simp [hsign, hid, bind, Except.bind] at h
    | ok id =>
      simp only [hsign, hid, bind, Except.bind] at h
      obtain ⟨hmem, hpoint⟩ := recover_of_findCandidate hid
      have hlt : id < 4 := by
        simp only [List.mem_cons, List.not_mem_nil, or_false] at hmem
        omega
      obtain ⟨hlength, hheader, hfirst, hsecond⟩ := Compact.parts_of_encode hlt h
      refine ⟨hlength, hcanonical, by omega, ?_, ?_⟩
      · rw [hheader]
        have hcases : id = 0 ∨ id = 1 ∨ id = 2 ∨ id = 3 := by omega
        rcases hcases with rfl | rfl | rfl | rfl <;> cases k.compressed <;> rfl
      · have hlow : (Compact.header b - 27) % 4 = id := by
          rw [hheader]
          split <;> omega
        rw [hlow, hfirst, hsecond]
        exact hpoint

end KeyPair

end GrapheneSigner
