import GrapheneSigner.Proofs.Calendar.Stamp
import GrapheneSigner.Proofs.Signing.Discovery
import GrapheneSigner.Proofs.Signing.Preconditions

/-!
# Signing again

What a call of signing leaves can be signed again at once.  The expiration is set, and it has a time
stamp because it was signed with four bytes, so that settings which are not strict let it pass,
wherever the window ends.  Then the first attempt of the second call is the last one of the first
call: it has the same digest, and the same keys make the same signatures of it.
-/

namespace GrapheneSigner

/-- The settings with another bound on the number of attempts. -/
def Config.bounded (config : Config) (bound : Nat) (hbound : 0 < bound) : Config :=
  { config with maxSigningAttempts := bound, attempts_pos := hbound }

namespace Resolver

/-- A store stays as it is when keys are resolved. -/
theorem resolve_keyStore_snd (operations : List Entry) (store : KeyStore) :
    (resolve KeyStore.lookup operations store).2 = store := by
  have hanswers := answers_keyStore store
  rcases exists_first_error store.resolve (places operations) with
    hok | ⟨pre, p, post, failure, hplaces, hok, hp⟩
  · rw [hanswers.resolve_of_ok rfl hok]
    exact hanswers.keeps_after rfl _
  · rw [hanswers.resolve_of_error rfl hplaces hok hp]
    exact hanswers.keeps_after rfl _

end Resolver

namespace Transaction

theorem signPass_keyStore_snd (t : Transaction) (config : Config) (chainId : Value)
    (store : KeyStore) : (t.signPass KeyStore.lookup config chainId store).2 = store := by
  have hstore := Resolver.resolve_keyStore_snd t.operations store
  unfold signPass
  cases t.checkPreconditions with
  | error failure => rfl
  | ok =>
    dsimp only
    rcases hresolve : Resolver.resolve KeyStore.lookup t.operations store with ⟨found, store'⟩
    rw [hresolve] at hstore
    obtain rfl : store' = store := hstore
    cases found with
    | error failure => rfl
    | ok keys =>
      dsimp only
      cases chainOf config chainId with
      | error failure => rfl
      | ok chain =>
        dsimp only
        cases (t.prepareExpiration config).result <;> rfl

/-- If the expiration can be prepared, then the latest expiration is known. -/
theorem exists_latest_of_prepareExpiration {t : Transaction} {config : Config}
    (h : (t.prepareExpiration config).result = .ok ()) : ∃ l, latest config = .ok l := by
  cases hlatest : latest config with
  | ok l => exact ⟨l, rfl⟩
  | error failure =>
    unfold prepareExpiration at h
    rw [hlatest] at h
    cases h

/-- Settings that are not strict let every expiration pass that has a time stamp. -/
theorem prepareExpiration_of_lenient {t : Transaction} {config : Config} {l : TimePoint}
    {stamp : Text} (hlatest : latest config = .ok l) (hset : t.expiration.isSet = true)
    (hstamp : t.expiration.stamp = .ok stamp) (hlenient : config.strictExpiration = false) :
    (t.prepareExpiration config).result = .ok () := by
  rcases Nat.lt_or_ge l.seconds t.expiration.seconds with hlate | hle
  · rw [prepareExpiration_of_late hlatest hlate, hstamp, Except.bind, hlenient]
    rfl
  · exact prepareExpiration_of_le hlatest hset hle

/-- An expiration with which a transaction has a digest has a time stamp. -/
theorem exists_stamp_of_attempt {t : Transaction} {chain : Bytes} {keys : List KeyPair}
    {found : Option (List Bytes)} (h : t.attempt chain keys = .ok found) :
    ∃ stamp, t.expiration.stamp = .ok stamp := by
  obtain ⟨digest, hdigest, _⟩ := exists_of_bind_eq_ok h
  have hbytes : t.expiration.seconds < byteRange 4 :=
    lt_of_digest_expiring (t := t) (e := t.expiration) hdigest
  have hrange : byteRange 4 = 4294967296 := rfl
  apply TimePoint.exists_stamp_iff.mpr
  unfold TimePoint.lastStamped
  omega

end Transaction

namespace SignedTransaction

open Transaction

variable {σ : Type}

theorem sign_keyStore_snd (t : SignedTransaction) (config : Config) (chainId : Value)
    (store : KeyStore) : (t.sign KeyStore.lookup config chainId store).2 = store := by
  have hstore := t.toTransaction.signPass_keyStore_snd config chainId store
  unfold sign
  rcases hpass : t.toTransaction.signPass KeyStore.lookup config chainId store with ⟨pass, store'⟩
  rw [hpass] at hstore
  obtain rfl : store' = store := hstore
  dsimp only
  cases pass.result with
  | error failure => rfl
  | ok signatures =>
    dsimp only
    cases (t.around pass.left).append ((signatures.map Bytes.hex).map .chars) <;> rfl

/-- Signatures are appended to a list, and it stays one. -/
theorem signaturesHolder_of_sign {t : SignedTransaction} {lookup : Lookup σ} {config : Config}
    {chainId : Value} {s : σ} {texts : List Text}
    (h : (t.sign lookup config chainId s).1.result = .ok texts) :
    (t.sign lookup config chainId s).1.left.signaturesHolder = .list := by
  have houtcome := signOutcome_sign t lookup config chainId s
  rw [h] at houtcome
  generalize (t.sign lookup config chainId s).1.left = left at houtcome ⊢
  cases houtcome with
  | appended hholder _ => exact hholder

/-- What a call of signing leaves is prepared for another call, and its first attempt gives the same
signatures. -/
theorem sign_left_of_sign {t : SignedTransaction} {store : KeyStore} {config : Config}
    {chainId : Value} (hsurplus : t.frame.NoSurplus) (hlenient : config.strictExpiration = false)
    {texts : List Text} (h : (t.sign KeyStore.lookup config chainId store).1.result = .ok texts)
    (bound : Nat) (hbound : 0 < bound) :
    let left := (t.sign KeyStore.lookup config chainId store).1.left
    let again := (left.sign KeyStore.lookup (config.bounded bound hbound) chainId store).1
    again.result = .ok texts ∧
      again.left = { left with signatures := left.signatures ++ texts.map .chars } := by
  intro left again
  obtain ⟨keys, chain, signatures, hready, hkeys, hchain, hprepared, hsearch, rfl, _⟩ :=
    search_of_sign h
  have hlist : left.signaturesHolder = .list := signaturesHolder_of_sign h
  obtain ⟨start, n, hstarts, hrun⟩ := exists_run_of_prepared hsurplus hprepared chain keys
    config.maxSigningAttempts
  rw [hsearch] at hrun
  have hattempt : left.toTransaction.attempt chain keys = .ok (some signatures) := by
    have hsigned := attempt_of_search (congrArg Prod.snd hsearch)
    rw [hsearch] at hsigned
    exact hsigned
  -- nothing of what is checked before the search has changed
  have hready' : left.checkPreconditions = .ok () := by
    rw [checkPreconditions_eq_ok_iff] at hready ⊢
    rw [hrun.body.operations, hrun.body.refBlockNum, hrun.body.refBlockPrefix]
    exact hready
  have hkeys' : (Resolver.resolve KeyStore.lookup left.operations store).1 = .ok keys := by
    rw [hrun.body.operations]
    exact hkeys
  have hset : left.expiration.isSet = true := by
    rw [hrun.expiration]
    exact bne_iff_ne.mpr (Nat.ne_of_gt (Nat.add_pos_left hstarts.pos n))
  obtain ⟨l, hlatest⟩ := exists_latest_of_prepareExpiration hprepared
  obtain ⟨stamp, hstamp⟩ := exists_stamp_of_attempt hattempt
  have hprepared' :
      (left.toTransaction.prepareExpiration (config.bounded bound hbound)).result = .ok () :=
    prepareExpiration_of_lenient hlatest hset hstamp hlenient
  have hkept : (left.toTransaction.prepareExpiration (config.bounded bound hbound)).left
      = left.toTransaction := prepareExpiration_of_isSet _ hset
  have hattempt' :
      (left.toTransaction.prepareExpiration (config.bounded bound hbound)).left.attempt chain keys
        = .ok (some signatures) := by
    rw [hkept]
    exact hattempt
  have hchain' : chainOf (config.bounded bound hbound) chainId = .ok chain := hchain
  have hsign := sign_of_attempt hready' hkeys' hchain' hprepared' hattempt' hlist
  rw [hkept] at hsign
  exact hsign

/-- A signed transaction is a fixed point of signing.  If signing succeeds with keys from a store
and settings that are not strict, then a second call with the same store, settings and chain id, at
the same time, succeeds too.  It leaves the transaction as it was, with the same signatures appended a
second time, and it would do so whatever the bound on the number of attempts is: the first attempt
is enough.  That no members wait beyond the fields holds of every transaction that a caller can come
by. -/
theorem sign_again (t : SignedTransaction) (store : KeyStore) (config : Config) (chainId : Value)
    (hsurplus : t.frame.NoSurplus) (hlenient : config.strictExpiration = false)
    {texts : List Text}
    (h : (t.sign KeyStore.lookup config chainId store).1.result = .ok texts) :
    let first := t.sign KeyStore.lookup config chainId store
    let second := first.1.left.sign KeyStore.lookup config chainId first.2
    second.1.result = .ok texts ∧
      second.1.left.expiration = first.1.left.expiration ∧
      second.1.left.signatures = t.signatures ++ texts.map .chars ++ texts.map .chars ∧
      second.1.left.toTransaction = first.1.left.toTransaction ∧
      second.2 = store ∧
      ∀ (bound : Nat) (hbound : 0 < bound),
        let bounded :=
          first.1.left.sign KeyStore.lookup (config.bounded bound hbound) chainId first.2
        bounded.1.result = second.1.result ∧ bounded.1.left = second.1.left := by
  intro first second
  have hstore : first.2 = store := t.sign_keyStore_snd config chainId store
  obtain ⟨_, _, _, _, hsignatures⟩ := sign_of_ok h
  have hbounded := sign_left_of_sign hsurplus hlenient h
  obtain ⟨hresult, hleft⟩ := hbounded config.maxSigningAttempts config.attempts_pos
  have hsecond : second = first.1.left.sign KeyStore.lookup config chainId store := by
    rw [← hstore]
  have hresult' : second.1.result = .ok texts := by
    rw [hsecond]
    exact hresult
  have hleft' : second.1.left
      = { first.1.left with signatures := first.1.left.signatures ++ texts.map .chars } := by
    rw [hsecond]
    exact hleft
  refine ⟨hresult', by rw [hleft'], ?_, by rw [hleft'], ?_, ?_⟩
  · rw [hleft']
    exact congrArg (· ++ texts.map .chars) hsignatures
  · rw [hsecond]
    exact first.1.left.sign_keyStore_snd config chainId store
  · intro bound hbound
    rw [hstore, hresult', hleft']
    exact hbounded bound hbound

/-- The vote is signed twice with the same signature. -/
theorem sign_again_vote :
    network.strictExpiration = false ∧
      (vote.sign KeyStore.lookup network .null wallet).1.result = .ok [voteSignature.hex] ∧
      ((vote.sign KeyStore.lookup network .null wallet).1.left.sign KeyStore.lookup network .null
        wallet).1.left.signatures = [.chars voteSignature.hex, .chars voteSignature.hex] := by
  obtain ⟨_, _, hsignatures, _⟩ :=
    sign_again vote wallet network .null Frame.noSurplus_intact rfl sign_vote
  rw [sign_keyStore_snd] at hsignatures
  exact ⟨rfl, sign_vote, hsignatures⟩

end SignedTransaction

end GrapheneSigner
