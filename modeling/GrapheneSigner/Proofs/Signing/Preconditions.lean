import GrapheneSigner.Proofs.Signing.WireEquality
import GrapheneSigner.Proofs.Transaction.Header

/-!
# What is checked and what is signed

A transaction that is signed has operations, refers to a block by integers other than zero, and has
an expiration.  The signed bytes say so too, with one exception: the prefix of the block is checked
as a whole, but only 32 bits of it are written, which are zeros if it is a multiple of 2 to the
power 32.
-/

namespace GrapheneSigner

/-- An integer is not zero if its value does not equal zero. -/
theorem Value.ne_zero_of_isZero {v : Value} {i : Int} (hzero : v.isZero = false)
    (hi : v.integer? = some i) : i ≠ 0 := by
  rintro rfl
  have hwhole : v.wholeNumber? = some 0 := by
    cases v with
    | float x => cases hi
    | _ => exact hi
  unfold isZero at hzero
  rw [hwhole] at hzero
  cases hzero

namespace Transaction

theorem checkPreconditions_eq_ok_iff {t : Transaction} :
    t.checkPreconditions = .ok () ↔
      t.operations ≠ [] ∧ t.refBlockNum.isZero = false ∧ t.refBlockPrefix.isZero = false := by
  unfold checkPreconditions
  cases t.operations with
  | nil => simp
  | cons e rest => cases t.refBlockNum.isZero <;> cases t.refBlockPrefix.isZero <;> simp

/-- A search does not start at the expiration that is not set. -/
theorem StartsAt.pos {t : Transaction} {config : Config} {start : Nat}
    (h : t.StartsAt config start) : 0 < start := by
  cases hset : t.expiration.isSet with
  | true =>
    rw [h.1 hset]
    exact Nat.pos_of_ne_zero (bne_iff_ne.mp hset)
  | false =>
    obtain ⟨now, _, hlater, _⟩ := h.2 hset
    omega

end Transaction

namespace SignedTransaction

open Transaction

variable {σ : Type}

/-- The wire form of what was signed, which the digest covers behind the chain, starts with a block
number, an expiration and a number of operations other than zero.  The block prefix was not zero
either, but only 32 bits of it are written, which are zeros if and only if 2 to the power 32 divides
it.  That no members wait beyond the fields holds of every transaction that a caller can come by. -/
theorem header_of_sign (t : SignedTransaction) (lookup : Lookup σ) (config : Config)
    (chainId : Value) (s : σ) (hsurplus : t.frame.NoSurplus) {texts : List Text}
    (h : (t.sign lookup config chainId s).1.result = .ok texts) :
    ∃ chain b header pre, chainOf config chainId = .ok chain ∧
      (t.sign lookup config chainId s).1.left.toTransaction.serialize .null = .ok b ∧
      (t.sign lookup config chainId s).1.left.digest chain = .ok (sha256 (chain ++ b)) ∧
      WireHeader.ofBytes? b = some header ∧
      header.refBlockNum ≠ 0 ∧ header.expiration ≠ 0 ∧ 1 ≤ header.operations ∧
      t.refBlockPrefix.integer? = some pre ∧ pre ≠ 0 ∧ header.refBlockPrefix = pre % 2 ^ 32 ∧
      (header.refBlockPrefix = 0 ↔ 2 ^ 32 ∣ pre) := by
  obtain ⟨keys, chain, signatures, hready, _, hchain, hprepared, hsearch, _⟩ := search_of_sign h
  obtain ⟨start, n, hstarts, hrun⟩ := exists_run_of_prepared hsurplus hprepared chain keys
    config.maxSigningAttempts
  rw [hsearch] at hrun
  generalize (t.sign lookup config chainId s).1.left.toTransaction = left at hrun ⊢
  obtain ⟨b, hb⟩ := exists_encode_of_attemptFrom hrun.signed.2
  rw [← hrun.encode_left] at hb
  obtain ⟨num, pre, hnum, hpre, hheader⟩ := header_of_encode hb
  obtain ⟨hoperations, hnumber, hprefix⟩ := checkPreconditions_eq_ok_iff.mp hready
  have hdigest : left.digest chain = .ok (sha256 (chain ++ b)) := by
    unfold digest
    rw [encode_eq_map, hb]
    rfl
  rw [hrun.body.refBlockNum] at hnum
  rw [hrun.body.refBlockPrefix] at hpre
  refine ⟨chain, b, _, pre, hchain, hb, hdigest, hheader, Value.ne_zero_of_isZero hnumber hnum,
    ?_, ?_, hpre, Value.ne_zero_of_isZero hprefix hpre, rfl, (Int.dvd_iff_emod_eq_zero ..).symm⟩
  · have hpos := hstarts.pos
    have hseconds : left.expiration.seconds = start + n := by rw [hrun.expiration]
    dsimp only
    omega
  · rw [hrun.body.operations]
    exact List.length_pos_of_ne_nil hoperations

/-- The header of the signed vote. -/
theorem header_of_sign_vote :
    (vote.sign KeyStore.lookup network .null wallet).1.result = .ok [voteSignature.hex] ∧
      ∃ b header,
        (vote.sign KeyStore.lookup network .null wallet).1.left.toTransaction.serialize .null
          = .ok b ∧
        WireHeader.ofBytes? b = some header ∧ header.refBlockPrefix = 3707022213 := by
  obtain ⟨_, b, header, pre, _, hb, _, hheader, _, _, _, hpre, _, hprefix, _⟩ :=
    header_of_sign vote KeyStore.lookup network .null wallet Frame.noSurplus_intact sign_vote
  cases hpre
  exact ⟨sign_vote, b, header, hb, hheader, hprefix⟩

/-! ### A prefix of which nothing is written -/

section Vote

open Secp256k1

/-- A vote whose block prefix is 2 to the power 32. -/
def widePrefixVote : SignedTransaction := { vote with refBlockPrefix := .int 4294967296 }

def widePrefixDigest : Bytes :=
  bigEndian 32 0xa3332682ed2ee0dd17562178ffe13b5b3f370cdd8370a0e277a49742cc0d79da

def widePrefixParts : Signature :=
  ⟨0x293ff6eb8056edc63c31107f2556f60c49c22634e88c758e15703d3a3cc50ebf,
    0x40dc24d008a48e5e239a264de51f251750455b59b7a46f7ef99b94ef3c74237c⟩

def widePrefixSignature : Bytes :=
  32 :: bigEndian 32 widePrefixParts.r ++ bigEndian 32 widePrefixParts.s

def widePrefixCalculation : KeyPair.Calculation voterKey widePrefixDigest where
  half := ⟨
    bigEndian 32 0xff4e02a97749cbbd5a83b42691332db2261721e1749644b391dfcdfbba4707cc,
    bigEndian 32 0xec89aceb1f761337ca38b8422b1458a53cf961b2a857946171fe5d0beda68793⟩
  seeded := ⟨
    bigEndian 32 0x8a5f21c2a87e07d15734c1ad60183726dbe2b01e4143292d2bd99d610599f7e6,
    bigEndian 32 0xa2c02793e7173bb1d5f11df94e96e623d66b0b26c28faac8a8d603d25d385976⟩
  nonce := 0x12a636255a69a947a3a5e0f755b0b17ad991f046aa8c595c2d32df66ea762faa
  signature := widePrefixParts
  id := 1
  candidate := voterPoint
  public_eq := ofPoint?_voterKey

theorem sign_widePrefixVote :
    (widePrefixVote.sign KeyStore.lookup network .null wallet).1.result
        = .ok [widePrefixSignature.hex] ∧
      (widePrefixVote.sign KeyStore.lookup network .null wallet).1.left
        = { widePrefixVote with signatures := [.chars widePrefixSignature.hex] } := by
  have hdigest : widePrefixVote.toTransaction.digest zeroChain = .ok widePrefixDigest :=
    eq_ok_of_toOption (by decide +kernel)
  have hcanonical : voterKey.SignsCanonically widePrefixDigest widePrefixSignature :=
    ⟨widePrefixCalculation.signCompact (length_bigEndian _ _) (by decide) rfl, rfl⟩
  have hready : widePrefixVote.checkPreconditions = .ok () := rfl
  have hprepared : (widePrefixVote.toTransaction.prepareExpiration network).result = .ok () := rfl
  exact sign_of_forall₂ hready resolve_vote chainOf_network rfl hprepared hdigest
    (.cons hcanonical .nil) rfl

/-- What is signed may refer to a block by a prefix of zero, although such a prefix is refused. -/
theorem exists_signed_prefix_zero :
    (widePrefixVote.sign KeyStore.lookup network .null wallet).1.result
        = .ok [widePrefixSignature.hex] ∧
      ∃ b header,
        (widePrefixVote.sign KeyStore.lookup network .null
          wallet).1.left.toTransaction.serialize .null = .ok b ∧
        WireHeader.ofBytes? b = some header ∧ header.refBlockPrefix = 0 := by
  obtain ⟨hresult, hleft⟩ := sign_widePrefixVote
  rw [hleft]
  have hheader : (widePrefixVote.toTransaction.serialize .null).toOption.bind WireHeader.ofBytes?
      = some ⟨34294, 0, 1451606404, 1⟩ := by
    decide +kernel
  obtain ⟨b, hb, hread⟩ := Option.bind_eq_some_iff.mp hheader
  exact ⟨hresult, b, _, eq_ok_of_toOption hb, hread, rfl⟩

end Vote

end SignedTransaction

end GrapheneSigner
