import GrapheneSigner.Proofs.Signing.Rounds

/-!
# The strict window

Strict settings refuse an expiration behind the window, but only once, before the search for
signatures.  The search moves the expiration on by a second after each attempt that it rejects, and
the window does not stop it.  So what is signed stays within the window exactly if one of the
expirations from the start of the search to the end of the window has canonical signatures by all
keys.
-/

namespace GrapheneSigner

namespace Transaction

/-- If strict settings let the expiration pass, the search starts within the window; a default
expiration leaves one minute of it. -/
theorem StartsAt.le_window {t : Transaction} {config : Config} {start : Nat}
    (hstarts : t.StartsAt config start) (hstrict : config.strictExpiration = true)
    (hprepared : (t.prepareExpiration config).result = .ok ()) :
    ∃ last, config.WindowEnds last ∧ start ≤ last ∧
      (t.expiration.isSet = false → start + 60 = last) := by
  cases hlatest : latest config with
  | error failure =>
    unfold prepareExpiration at hprepared
    rw [hlatest] at hprepared
    cases hprepared
  | ok l =>
    have hends := seconds_of_latest hlatest
    refine ⟨l.seconds, hends, ?_⟩
    cases hset : t.expiration.isSet with
    | true =>
      refine ⟨?_, fun hunset ↦ by cases hunset⟩
      rw [hstarts.1 hset]
      apply Nat.le_of_not_lt
      intro hlate
      rw [prepareExpiration_of_late hlatest hlate] at hprepared
      obtain ⟨stamp, _, hstamped⟩ := exists_of_bind_eq_ok hprepared
      rw [if_pos hstrict] at hstamped
      obtain ⟨_, _, hrefused⟩ := exists_of_bind_eq_ok hstamped
      cases hrefused
    | false =>
      obtain ⟨now, hnow, _, hstart⟩ := hstarts.2 hset
      obtain ⟨now', hnow', hlast⟩ := hends
      rw [hnow] at hnow'
      cases hnow'
      refine ⟨by omega, fun _ ↦ by omega⟩

end Transaction

namespace SignedTransaction

open Transaction

variable {σ : Type}

/-- What strict settings let through is signed with the first expiration from the start of the
search on with which every key has a canonical signature.  The start is within the window, and the
signed expiration is within it if and only if some expiration of the window from the start on has
canonical signatures by all keys; otherwise it is behind the window, by less than the number of
attempts.  That no members wait beyond the fields holds of every transaction that a caller can come
by. -/
theorem expiration_le_iff_of_strict_sign (t : SignedTransaction) (lookup : Lookup σ)
    (config : Config) (chainId : Value) (s : σ) (hsurplus : t.frame.NoSurplus)
    (hstrict : config.strictExpiration = true) {texts : List Text}
    (h : (t.sign lookup config chainId s).1.result = .ok texts) :
    ∃ last start k keys chain, config.WindowEnds last ∧ t.StartsAt config start ∧
      start ≤ last ∧ (t.expiration.isSet = false → start + 60 = last) ∧
      (Resolver.resolve lookup t.operations s).1 = .ok keys ∧
      chainOf config chainId = .ok chain ∧
      k < config.maxSigningAttempts ∧
      IsLeast {j | t.AllCanonical chain keys ⟨start + j⟩} k ∧
      (t.sign lookup config chainId s).1.left.expiration = ⟨start + k⟩ ∧
      (start + k ≤ last ↔ ∃ j, start + j ≤ last ∧ t.AllCanonical chain keys ⟨start + j⟩) := by
  obtain ⟨keys, chain, signatures, _, hkeys, hchain, hprepared, hsearch, _⟩ := search_of_sign h
  obtain ⟨start, k, hstarts, hrun⟩ := exists_run_of_prepared hsurplus hprepared chain keys
    config.maxSigningAttempts
  rw [hsearch] at hrun
  obtain ⟨last, hends, hle, hdefault⟩ := hstarts.le_window hstrict hprepared
  obtain ⟨hk, hleast⟩ := hrun.isLeast
  refine ⟨last, start, k, keys, chain, hends, hstarts, hle, hdefault, hkeys, hchain, hk, hleast,
    hrun.expiration, ?_⟩
  constructor
  · intro hwithin
    exact ⟨k, hwithin, hleast.1⟩
  · rintro ⟨j, hwithin, hcanonical⟩
    have hkj : k ≤ j := hleast.2 hcanonical
    omega

/-! ### A vote that expires at the end of the window -/

section Vote

/-- What the clock reads an hour before the vote expires. -/
def hourBefore : ClockReading := ⟨⟨2015, 12, 31⟩, 23, 0, 4, 0, some .zero⟩

/-- Strict settings whose window ends when the vote expires. -/
def strictNetwork : Config :=
  { Config.default (.ok (.clock hourBefore)) with strictExpiration := true }

theorem seconds_hourBefore : hourBefore.seconds = 1451602804 := by decide +kernel

theorem latest_strictNetwork : latest strictNetwork = .ok ⟨1451606404⟩ := by
  have hoffset : strictNetwork.maxExpirationOffset = 3600 := rfl
  refine latest_of_clock (r := hourBefore) rfl ?_ ?_ (by decide)
  · rw [seconds_hourBefore]
    decide
  · rw [seconds_hourBefore, hoffset]
    rfl

theorem windowEnds_strictNetwork : strictNetwork.WindowEnds 1451606404 :=
  seconds_of_latest latest_strictNetwork

theorem chainOf_strictNetwork : chainOf strictNetwork .null = .ok zeroChain := rfl

theorem resolve_vote_otherWallet :
    (Resolver.resolve KeyStore.lookup vote.operations otherWallet).1 = .ok [otherKey] := rfl

theorem prepareExpiration_vote_strictNetwork :
    (vote.toTransaction.prepareExpiration strictNetwork).result = .ok () :=
  prepareExpiration_of_le latest_strictNetwork rfl (Nat.le_refl 1451606404)

/-- The other key signs the vote one second later than it should expire. -/
theorem sign_vote_strictNetwork :
    (vote.sign KeyStore.lookup strictNetwork .null otherWallet).1.result
        = .ok [laterSignature.hex] ∧
      (vote.sign KeyStore.lookup strictNetwork .null otherWallet).1.left.expiration
        = ⟨1451606405⟩ := by
  have hleft : (vote.toTransaction.prepareExpiration strictNetwork).left = vote.toTransaction :=
    prepareExpiration_of_isSet strictNetwork rfl
  have hattempts : strictNetwork.maxSigningAttempts = 498 + 2 := by decide
  have hsearch : search zeroChain [otherKey] strictNetwork.maxSigningAttempts
      (vote.toTransaction.prepareExpiration strictNetwork).left strictNetwork.maxSigningAttempts
        = (resignedVote.toTransaction, .ok [laterSignature]) := by
    rw [hleft, hattempts]
    exact search_signedVote _ _
  obtain ⟨hresult, hleft'⟩ := sign_of_search checkPreconditions_vote resolve_vote_otherWallet
    chainOf_strictNetwork prepareExpiration_vote_strictNetwork hsearch rfl
  exact ⟨hresult, by rw [hleft']; rfl⟩

/-- No expiration of the window from that of the vote on has a canonical signature by the other key,
so that it is signed behind the window. -/
theorem expiration_le_iff_of_strict_sign_vote :
    strictNetwork.strictExpiration = true ∧
      (vote.sign KeyStore.lookup strictNetwork .null otherWallet).1.result
        = .ok [laterSignature.hex] ∧
      strictNetwork.WindowEnds 1451606404 ∧
      ¬ ∃ j, 1451606404 + j ≤ 1451606404 ∧
        vote.AllCanonical zeroChain [otherKey] ⟨1451606404 + j⟩ := by
  obtain ⟨hresult, hexpiration⟩ := sign_vote_strictNetwork
  obtain ⟨last, start, k, keys, chain, hends, hstarts, _, _, hkeys, hchain, _, _, hleft, hiff⟩ :=
    expiration_le_iff_of_strict_sign vote KeyStore.lookup strictNetwork .null otherWallet
      Frame.noSurplus_intact rfl hresult
  have hstart : start = 1451606404 := hstarts.1 rfl
  have hlast := hends.eq windowEnds_strictNetwork
  rw [resolve_vote_otherWallet] at hkeys
  rw [chainOf_strictNetwork] at hchain
  cases hkeys
  cases hchain
  rw [hexpiration] at hleft
  have hk : start + k = 1451606405 := (congrArg TimePoint.seconds hleft).symm
  subst hstart hlast
  refine ⟨rfl, hresult, hends, ?_⟩
  rw [← hiff]
  omega

/-- Strict settings do not keep what is signed within the window: the other key signs the vote with
an expiration one second behind the end of the window. -/
theorem exists_expiration_behind_window :
    strictNetwork.strictExpiration = true ∧
      (vote.sign KeyStore.lookup strictNetwork .null otherWallet).1.result
        = .ok [laterSignature.hex] ∧
      ∃ last, strictNetwork.WindowEnds last ∧
        last < (vote.sign KeyStore.lookup strictNetwork .null
          otherWallet).1.left.expiration.seconds := by
  obtain ⟨hresult, hexpiration⟩ := sign_vote_strictNetwork
  refine ⟨rfl, hresult, 1451606404, windowEnds_strictNetwork, ?_⟩
  rw [hexpiration]
  decide

end Vote

end SignedTransaction

end GrapheneSigner
