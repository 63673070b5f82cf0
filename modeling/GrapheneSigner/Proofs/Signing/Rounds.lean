import GrapheneSigner.Proofs.Signing.Pass
import GrapheneSigner.Proofs.Signing.Recoverable

/-!
# Rounds of signing

A transaction can be signed more than once, with other keys in each round, and the signatures of all
rounds stay.  A round signs the transaction that it leaves.  If a later round has to change the
expiration, then the earlier signatures are left over from another digest, and they still recover
their keys only if both digests are the same scalar.
-/

namespace GrapheneSigner

namespace Compact

/-- The public point of a key is recovered from a compact signature of a digest. -/
def Recovers (k : KeyPair) (digest b : Bytes) : Prop :=
  ∃ candidate, Secp256k1.Candidate.ofPoint? k.publicPoint = some candidate ∧
    Secp256k1.recover ((header b - 27) % 4 : Nat) (first b) (second b) digest
      = .ok (some candidate)

/-- A signature of one digest recovers its key for another digest exactly if both are the same
scalar. -/
theorem SignedBy.recovers_iff {k : KeyPair} {digest digest' b : Bytes}
    (h : SignedBy k digest b) :
    Recovers k digest' b ↔ Secp256k1.digestScalar digest' = Secp256k1.digestScalar digest := by
  obtain ⟨c, hc, hrecover⟩ := h.recovers
  rw [← Secp256k1.recover_iff_of_recover hrecover]
  constructor
  · rintro ⟨c', hc', hrecover'⟩
    rw [hc] at hc'
    cases hc'
    exact hrecover'
  · intro hrecover'
    exact ⟨c, hc, hrecover'⟩

end Compact

namespace SignedTransaction

open Transaction

/-- A round of signing that succeeded: the keys of the authorities, the signatures that were
appended, and the expiration that was left. -/
structure Round where
  keys : List KeyPair
  texts : List Text
  expiration : TimePoint

namespace Round

/-- Every key of a round made one canonical signature of a digest. -/
def Signs (c : Round) (digest : Bytes) : Prop :=
  List.Forall₂ (fun k text ↦ ∃ b, Hex.read text = .ok b ∧ Compact.SignedBy k digest b) c.keys
    c.texts

/-- The signatures of a round recover its keys for a digest. -/
def Recovers (c : Round) (digest : Bytes) : Prop :=
  List.Forall₂ (fun k text ↦ ∃ b, Hex.read text = .ok b ∧ Compact.Recovers k digest b) c.keys
    c.texts

/-- The signatures of a round still recover its keys for another digest exactly if both digests are
the same scalar, unless there are none. -/
theorem Signs.recovers_iff {c : Round} {digest digest' : Bytes} (h : c.Signs digest) :
    c.Recovers digest' ↔ c.keys = [] ∨
      Secp256k1.digestScalar digest' = Secp256k1.digestScalar digest := by
  obtain ⟨keys, texts, expiration⟩ := c
  unfold Signs at h
  unfold Recovers
  dsimp only at h ⊢
  constructor
  · intro hrecovers
    cases h with
    | nil => exact .inl rfl
    | cons hfirst _ =>
      obtain ⟨b, hb, hsigned⟩ := hfirst
      obtain ⟨⟨b', hb', hrecovers⟩, _⟩ := List.forall₂_cons.mp hrecovers
      rw [hb] at hb'
      cases hb'
      exact .inr (hsigned.recovers_iff.mp hrecovers)
  · rintro (rfl | hsame)
    · rw [List.forall₂_nil_left_iff] at h ⊢
      exact h
    · refine h.imp ?_
      rintro k text ⟨b, hb, hsigned⟩
      exact ⟨b, hb, hsigned.recovers_iff.mpr hsame⟩

end Round

/-- Rounds of signing for one chain that start with `t` and leave `u`.  Each round has its own
source of keys and its own settings. -/
inductive Rounds (chain : Bytes) (t : SignedTransaction) : List Round → SignedTransaction → Prop
  | none : Rounds chain t [] t
  | signed {σ rounds u v keys texts} (before : Rounds chain t rounds u) (lookup : Lookup σ)
      (config : Config) (chainId : Value) (s : σ) (hchain : chainOf config chainId = .ok chain)
      (hkeys : (Resolver.resolve lookup u.operations s).1 = .ok keys)
      (hresult : (u.sign lookup config chainId s).1.result = .ok texts)
      (hleft : (u.sign lookup config chainId s).1.left = v) :
      Rounds chain t (rounds ++ [⟨keys, texts, v.expiration⟩]) v

/-! ## What one round does -/

/-- A round signs the transaction that it leaves, and this is the one before with an expiration that
is not earlier. -/
theorem signs_of_sign {σ : Type} {t : SignedTransaction} {lookup : Lookup σ} {config : Config}
    {chainId : Value} {s : σ} {chain : Bytes} {keys : List KeyPair} {texts : List Text}
    (hsurplus : t.frame.NoSurplus) (hchain : chainOf config chainId = .ok chain)
    (hkeys : (Resolver.resolve lookup t.operations s).1 = .ok keys)
    (h : (t.sign lookup config chainId s).1.result = .ok texts) :
    let left := (t.sign lookup config chainId s).1.left
    SameBody t.toTransaction left.toTransaction ∧ left.frame.NoSurplus ∧
      t.expiration.seconds ≤ left.expiration.seconds ∧
      left.signatures = t.signatures ++ texts.map .chars ∧
      ∃ digest, left.digest chain = .ok digest ∧
        Round.Signs ⟨keys, texts, left.expiration⟩ digest := by
  intro left
  obtain ⟨keys', chain', start, n, signatures, hkeys', hchain', hstarts, hrun, rfl, hsignatures⟩ :=
    exists_run_of_sign hsurplus h
  rw [hkeys] at hkeys'
  cases hkeys'
  rw [hchain] at hchain'
  cases hchain'
  obtain ⟨digest, hdigest, hall⟩ := exists_of_bind_eq_ok hrun.signed.2
  have hexpiration : left.expiration = ⟨start + n⟩ := hrun.expiration
  refine ⟨hrun.body, hrun.noSurplus, ?_, hsignatures, digest, ?_, ?_⟩
  · rw [hexpiration]
    cases hset : t.expiration.isSet with
    | true =>
      rw [hstarts.1 hset]
      exact Nat.le_add_right _ _
    | false =>
      have hzero : t.expiration.seconds = 0 := by simpa [TimePoint.isSet] using hset
      rw [hzero]
      exact Nat.zero_le _
  · calc
      left.digest chain = (left.expiring left.expiration).digest chain := rfl
      _ = (t.expiring left.expiration).digest chain := hrun.body.digest_expiring _ _
      _ = .ok digest := by rw [hexpiration, hdigest]
  · unfold Round.Signs
    rw [List.forall₂_map_right_iff]
    refine (forall₂_of_signAll hall).imp ?_
    rintro k b ⟨hsign, hcanonical⟩
    exact ⟨b, Hex.read_hex b, KeyPair.signedBy_of_signCompact hsign hcanonical⟩

/-! ## What rounds leave -/

/-- What is known of `u` behind rounds of signing that started with `t`. -/
structure History (chain : Bytes) (t : SignedTransaction) (rounds : List Round)
    (u : SignedTransaction) : Prop where
  body : SameBody t.toTransaction u.toTransaction
  noSurplus : u.frame.NoSurplus
  signatures : u.signatures = t.signatures ++ (rounds.flatMap Round.texts).map .chars
  expiration_le : ∀ c ∈ rounds, c.expiration.seconds ≤ u.expiration.seconds
  expiration_last : ∀ c ∈ rounds.getLast?, c.expiration = u.expiration
  signs : ∀ c ∈ rounds, ∃ digest, (u.expiring c.expiration).digest chain = .ok digest ∧
    c.Signs digest

/-- One more round. -/
theorem History.next {chain : Bytes} {t u v : SignedTransaction} {rounds : List Round} {c : Round}
    (h : History chain t rounds u) (hbody : SameBody u.toTransaction v.toTransaction)
    (hsurplus : v.frame.NoSurplus) (hle : u.expiration.seconds ≤ v.expiration.seconds)
    (hsignatures : v.signatures = u.signatures ++ c.texts.map .chars)
    (hexpiration : c.expiration = v.expiration) {digest : Bytes}
    (hdigest : v.digest chain = .ok digest) (hsigns : c.Signs digest) :
    History chain t (rounds ++ [c]) v where
  body := h.body.trans hbody
  noSurplus := hsurplus
  signatures := by
    calc
      v.signatures = u.signatures ++ c.texts.map .chars := hsignatures
      _ = t.signatures ++ (rounds.flatMap Round.texts).map .chars ++ c.texts.map .chars := by
        rw [h.signatures]
      _ = t.signatures ++ ((rounds ++ [c]).flatMap Round.texts).map .chars := by simp
  expiration_le := by
    intro c' hc'
    rcases List.mem_append.mp hc' with hbefore | hlast
    · exact (h.expiration_le c' hbefore).trans hle
    · rw [List.mem_singleton.mp hlast, hexpiration]
  expiration_last := by
    intro c' hc'
    rw [List.getLast?_concat, Option.mem_some_iff] at hc'
    rw [← hc', hexpiration]
  signs := by
    intro c' hc'
    rcases List.mem_append.mp hc' with hbefore | hlast
    · rw [hbody.digest_expiring]
      exact h.signs c' hbefore
    · rw [List.mem_singleton.mp hlast, hexpiration]
      exact ⟨digest, hdigest, hsigns⟩

theorem Rounds.history {chain : Bytes} {t u : SignedTransaction} {rounds : List Round}
    (hsurplus : t.frame.NoSurplus) (h : Rounds chain t rounds u) : History chain t rounds u := by
  induction h with
  | none => exact ⟨.refl _, hsurplus, by simp, by simp, by simp, by simp⟩
  | signed _ lookup config chainId s hchain hkeys hresult hleft ih =>
    obtain ⟨hbody, hnone, hle, hsignatures, digest, hdigest, hsigns⟩ :=
      signs_of_sign ih.noSurplus hchain hkeys hresult
    rw [hleft] at hbody hnone hle hsignatures hdigest hsigns
    exact ih.next hbody hnone hle hsignatures rfl hdigest hsigns

/-- Rounds of signing on a transaction without signatures leave the signatures of all rounds, in
order.  The signatures of the last round, and of every round before that left the same expiration,
are signatures of the transaction as it is now.  Those of any other round still recover their keys
exactly if the digest that they were made of and the present one are the same scalar.  That no
members wait beyond the fields holds of every transaction that a caller can come by. -/
theorem recovers_iff_of_rounds {chain : Bytes} {t u : SignedTransaction} {rounds : List Round}
    (hsurplus : t.frame.NoSurplus) (hunsigned : t.signatures = [])
    (h : Rounds chain t rounds u) :
    u.signatures = (rounds.flatMap Round.texts).map .chars ∧
      (∀ c ∈ rounds.getLast?, c.expiration = u.expiration) ∧
      ∀ c ∈ rounds, c.expiration.seconds ≤ u.expiration.seconds ∧
        ∃ digest own, u.digest chain = .ok digest ∧
          (u.expiring c.expiration).digest chain = .ok own ∧ c.Signs own ∧
          (c.expiration = u.expiration → c.Signs digest) ∧
          (c.Recovers digest ↔ c.keys = [] ∨
            Secp256k1.digestScalar digest = Secp256k1.digestScalar own) := by
  have hhistory := h.history hsurplus
  refine ⟨?_, hhistory.expiration_last, ?_⟩
  · rw [hhistory.signatures, hunsigned, List.nil_append]
  intro c hc
  refine ⟨hhistory.expiration_le c hc, ?_⟩
  obtain ⟨own, hown, hsigns⟩ := hhistory.signs c hc
  -- the digest of the transaction is the one that the last round signed
  obtain ⟨last, hlast⟩ := Option.isSome_iff_exists.mp
    (List.getLast?_isSome.mpr (List.ne_nil_of_mem hc))
  obtain ⟨digest, hdigest, _⟩ := hhistory.signs last (List.mem_of_getLast? hlast)
  rw [hhistory.expiration_last last hlast] at hdigest
  refine ⟨digest, own, hdigest, hown, hsigns, ?_, hsigns.recovers_iff⟩
  intro hexpiration
  rw [hexpiration, hdigest] at hown
  cases hown
  exact hsigns

/-! ### A vote that is signed twice -/

section Vote

open Secp256k1

/-- Another key of the voter. -/
def otherKey : KeyPair := ⟨3, true, by decide, by decide⟩

def otherPoint : Candidate :=
  ⟨0xf9308a019258c31049344f85f89d5229b531c845836f99b08601f113bce036f9,
    0x388f7b0f632de8140fe337e62a37f3566500a99934c2231b6cb9fd7584b8e672⟩

/-- The store with the other key. -/
def otherWallet : KeyStore := ⟨[(voter, [(.posting, otherKey)])]⟩

/-- The digest of the vote one second later. -/
def laterDigest : Bytes :=
  bigEndian 32 0xdfd417c3911353d7a51be6e20884a90106ece09720cd8735ee10516b919c1bf3

/-- The integers of the signature of the vote by the other key. -/
def rejectedParts : Signature :=
  ⟨0xc8453aedb090f74ff7f861c017aa14fe5de47a45cb1fd1946a486325c4b78d3f,
    0x226761c6950ab6cd4265cd84a3fe2c37c4ffed79801b19d9eb85a3178b22d528⟩

/-- The integers of its signature of the vote one second later. -/
def laterParts : Signature :=
  ⟨0x1a3b7a9f7227d1358b0d80ca6eef29a72e9149581d0a4cf41cd061bf0259cf57,
    0x662a97befbbaccaad9c86d43f8454d7d8c9347b51707bae302eb23e0469bce39⟩

/-- The signature that is not canonical. -/
def rejectedSignature : Bytes :=
  32 :: bigEndian 32 rejectedParts.r ++ bigEndian 32 rejectedParts.s

/-- The signature one second later. -/
def laterSignature : Bytes := 32 :: bigEndian 32 laterParts.r ++ bigEndian 32 laterParts.s

/-- The vote with both signatures. -/
def resignedVote : SignedTransaction :=
  { vote with
    expiration := ⟨1451606405⟩
    signatures := [.chars voteSignature.hex, .chars laterSignature.hex] }

theorem ofPoint?_otherKey : Candidate.ofPoint? otherKey.publicPoint = some otherPoint := by
  decide +kernel

def rejectedCalculation : KeyPair.Calculation otherKey voteDigest where
  half := ⟨
    bigEndian 32 0xfc64b29cd9731c0f962a96c85463e5bd8da6a0475e5a99996accee5a5b4fb130,
    bigEndian 32 0xff54d9d07392cee07d4c6078d1af526d2839583975c98553d3303f7da1a3d662⟩
  seeded := ⟨
    bigEndian 32 0x284334d405464914d9a22a55ee54a7b814ed671a8c00d91f1cbb9c1e3bea9081,
    bigEndian 32 0x29753899ad614ead16c99f6014953226bd2bb4f575b27e8845c8ed1e4f6984ae⟩
  nonce := 0xdaf42e68e15a204d58a01426c8a02bca70440e831f7156f165afdda2ab4f0be5
  signature := rejectedParts
  id := 1
  candidate := otherPoint
  public_eq := ofPoint?_otherKey

def laterCalculation : KeyPair.Calculation otherKey laterDigest where
  half := ⟨
    bigEndian 32 0xaf6c49eff14fc3eb15f18813caf4fa7f87df06ae0ee5b0ec06e678640ad3f51d,
    bigEndian 32 0x409ecad5cb0e2d66f2c40bb5aec023433668785fec6b4e121ae793680f54913d⟩
  seeded := ⟨
    bigEndian 32 0x0eba8e048f5d3295085c8f3bc03382c75cc3de592df93f905f42bfbdc8df2a6f,
    bigEndian 32 0xff66e2cb324e95a93cc8ff04d370a213264127d8ac3aeb99c9acaeaba363b064⟩
  nonce := 0x42db23b5927fb99c75e1c2ff6111613197b54b65ba768982928f10cba27467c3
  signature := laterParts
  id := 1
  candidate := otherPoint
  public_eq := ofPoint?_otherKey

theorem digest_resignedVote : resignedVote.toTransaction.digest zeroChain = .ok laterDigest :=
  eq_ok_of_toOption (by decide +kernel)

/-- The other key has no canonical signature of the vote, but one second later it has. -/
theorem search_signedVote (attempts remaining : Nat) :
    search zeroChain [otherKey] attempts signedVote.toTransaction (remaining + 2)
      = (resignedVote.toTransaction, .ok [laterSignature]) := by
  have hsign : otherKey.signCompact voteDigest = .ok rejectedSignature :=
    rejectedCalculation.signCompact (length_bigEndian _ _) (by decide) rfl
  have hrejected : signedVote.toTransaction.attempt zeroChain [otherKey] = .ok none :=
    attempt_of_rejected digest_vote hsign rfl
  have hlater : signedVote.expiration.addSeconds 1 = .ok ⟨1451606405⟩ :=
    TimePoint.addSeconds_eq_ok_iff.mpr (by decide)
  have hassign : signedVote.toTransaction.expireAt ⟨1451606405⟩ = .ok resignedVote.toTransaction :=
    expireAt_intact rfl _
  have hstamp : (TimePoint.mk 1451606405).stamp = .ok (lit "2016-01-01T00:00:05") :=
    eq_ok_of_toOption (by decide +kernel)
  have hcanonical : otherKey.SignsCanonically laterDigest laterSignature :=
    ⟨laterCalculation.signCompact (length_bigEndian _ _) (by decide) rfl, rfl⟩
  rw [search_of_rejected hrejected hlater hassign hstamp]
  exact search_of_signed (attempt_of_forall₂ digest_resignedVote (.cons hcanonical .nil))

theorem resolve_signedVote :
    (Resolver.resolve KeyStore.lookup signedVote.operations otherWallet).1 = .ok [otherKey] := rfl

theorem sign_signedVote :
    (signedVote.sign KeyStore.lookup network .null otherWallet).1.result
        = .ok [laterSignature.hex] ∧
      (signedVote.sign KeyStore.lookup network .null otherWallet).1.left = resignedVote := by
  have hleft : (signedVote.toTransaction.prepareExpiration network).left
      = signedVote.toTransaction := prepareExpiration_of_isSet network rfl
  have hattempts : network.maxSigningAttempts = 498 + 2 := by decide
  have hsearch : search zeroChain [otherKey] network.maxSigningAttempts
      (signedVote.toTransaction.prepareExpiration network).left network.maxSigningAttempts
        = (resignedVote.toTransaction, .ok [laterSignature]) := by
    rw [hleft, hattempts]
    exact search_signedVote _ _
  have hready : signedVote.toTransaction.checkPreconditions = .ok () := checkPreconditions_vote
  have hprepared : (signedVote.toTransaction.prepareExpiration network).result = .ok () :=
    prepareExpiration_vote
  exact sign_of_search hready resolve_signedVote chainOf_network hprepared hsearch rfl

/-- The vote is signed with both keys, one after the other. -/
theorem rounds_vote :
    Rounds zeroChain vote [⟨[voterKey], [voteSignature.hex], ⟨1451606404⟩⟩,
      ⟨[otherKey], [laterSignature.hex], ⟨1451606405⟩⟩] resignedVote := by
  have hfirst :
      Rounds zeroChain vote [⟨[voterKey], [voteSignature.hex], ⟨1451606404⟩⟩] signedVote :=
    .signed .none KeyStore.lookup network .null wallet chainOf_network resolve_vote sign_vote_eq.1
      sign_vote_eq.2
  exact .signed hfirst KeyStore.lookup network .null otherWallet chainOf_network resolve_signedVote
    sign_signedVote.1 sign_signedVote.2

theorem digestScalar_laterDigest_ne : digestScalar laterDigest ≠ digestScalar voteDigest := by
  decide

/-- After the second round, the signature of the first one does not recover its key any more, but
the one of the second round does. -/
theorem recovers_iff_of_rounds_vote :
    resignedVote.signatures = [.chars voteSignature.hex, .chars laterSignature.hex] ∧
      resignedVote.toTransaction.digest zeroChain = .ok laterDigest ∧
      ¬ Round.Recovers ⟨[voterKey], [voteSignature.hex], ⟨1451606404⟩⟩ laterDigest ∧
      Round.Recovers ⟨[otherKey], [laterSignature.hex], ⟨1451606405⟩⟩ laterDigest := by
  obtain ⟨hsignatures, _, hall⟩ :=
    recovers_iff_of_rounds Frame.noSurplus_intact rfl rounds_vote
  obtain ⟨_, digest, own, hdigest, hown, _, _, hfirst⟩ := hall _ List.mem_cons_self
  obtain ⟨_, digest', _, hdigest', _, _, hcurrent, _⟩ :=
    hall _ (List.mem_cons_of_mem _ List.mem_cons_self)
  have hvote : (resignedVote.expiring ⟨1451606404⟩).digest zeroChain = .ok voteDigest := digest_vote
  rw [digest_resignedVote] at hdigest hdigest'
  rw [hvote] at hown
  cases hdigest
  cases hdigest'
  cases hown
  refine ⟨hsignatures, digest_resignedVote, ?_, ?_⟩
  · rw [hfirst, not_or]
    exact ⟨List.cons_ne_nil _ _, digestScalar_laterDigest_ne⟩
  · exact (hcurrent rfl).recovers_iff.mpr (.inr rfl)

/-- Not every signature that signing appends covers the transaction for good: the vote has no
signatures at first, two rounds of signing succeed, and then none of the keys of the first round is
recovered from its signature for the digest of the vote as it is left. -/
theorem exists_stale_signature :
    vote.signatures = [] ∧
      Rounds zeroChain vote [⟨[voterKey], [voteSignature.hex], ⟨1451606404⟩⟩,
        ⟨[otherKey], [laterSignature.hex], ⟨1451606405⟩⟩] resignedVote ∧
      .chars voteSignature.hex ∈ resignedVote.signatures ∧
      ∃ digest, resignedVote.toTransaction.digest zeroChain = .ok digest ∧
        ¬ ∃ k ∈ [voterKey], ∃ b, Hex.read voteSignature.hex = .ok b ∧
          Compact.Recovers k digest b := by
  refine ⟨rfl, rounds_vote, List.mem_cons_self, laterDigest, digest_resignedVote, ?_⟩
  rintro ⟨k, hk, b, hb, hrecovers⟩
  rw [List.mem_singleton] at hk
  rw [Hex.read_hex] at hb
  cases hb
  subst hk
  have hsigned : Compact.SignedBy voterKey voteDigest voteSignature :=
    KeyPair.signedBy_of_signCompact signsCanonically_vote.1 signsCanonically_vote.2
  exact digestScalar_laterDigest_ne (hsigned.recovers_iff.mp hrecovers)

end Vote

end SignedTransaction

end GrapheneSigner
