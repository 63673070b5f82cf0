import Mathlib.Algebra.Group.Nat.Defs
import GrapheneSigner.Proofs.Signing.Recoverable
import GrapheneSigner.Proofs.Signing.Search
import GrapheneSigner.Proofs.Text.Hex

/-!
# Signing passes

A pass that succeeds appends one canonical signature of the transaction that it leaves for every
key.  The expiration that it leaves is the first one with which all keys have canonical signatures.
A pass that fails leaves at most another expiration.
-/

namespace GrapheneSigner

namespace Transaction

variable {σ : Type}

/-- The ways in which a pass can go: it is refused before it has set an expiration, it fails to
prepare the expiration, or it searches for signatures. -/
inductive PassOutcome (t : Transaction) (lookup : Lookup σ) (config : Config) (chainId : Value)
    (s : σ) : Transaction → Except Failure (List Bytes) → Prop
  | refused {failure}
      (h : t.checkPreconditions = .error failure ∨
        (Resolver.resolve lookup t.operations s).1 = .error failure ∨
        chainOf config chainId = .error failure) :
      PassOutcome t lookup config chainId s t (.error failure)
  | unprepared {keys chain failure} (hready : t.checkPreconditions = .ok ())
      (hkeys : (Resolver.resolve lookup t.operations s).1 = .ok keys)
      (hchain : chainOf config chainId = .ok chain)
      (h : (t.prepareExpiration config).result = .error failure) :
      PassOutcome t lookup config chainId s (t.prepareExpiration config).left (.error failure)
  | searched {keys chain} (hready : t.checkPreconditions = .ok ())
      (hkeys : (Resolver.resolve lookup t.operations s).1 = .ok keys)
      (hchain : chainOf config chainId = .ok chain)
      (hprepared : (t.prepareExpiration config).result = .ok ()) :
      PassOutcome t lookup config chainId s
        (search chain keys config.maxSigningAttempts (t.prepareExpiration config).left
          config.maxSigningAttempts).1
        (search chain keys config.maxSigningAttempts (t.prepareExpiration config).left
          config.maxSigningAttempts).2

theorem passOutcome_signPass (t : Transaction) (lookup : Lookup σ) (config : Config)
    (chainId : Value) (s : σ) :
    PassOutcome t lookup config chainId s (t.signPass lookup config chainId s).1.left
      (t.signPass lookup config chainId s).1.result := by
  unfold signPass
  cases hready : t.checkPreconditions with
  | error failure => exact .refused (.inl hready)
  | ok =>
    dsimp only
    rcases hresolve : Resolver.resolve lookup t.operations s with ⟨found, s'⟩
    cases found with
    | error failure => exact .refused (.inr (.inl (congrArg Prod.fst hresolve)))
    | ok keys =>
      dsimp only
      have hkeys : (Resolver.resolve lookup t.operations s).1 = .ok keys :=
        congrArg Prod.fst hresolve
      cases hchain : chainOf config chainId with
      | error failure => exact .refused (.inr (.inr hchain))
      | ok chain =>
        dsimp only
        cases hprepared : (t.prepareExpiration config).result with
        | error failure => exact .unprepared hready hkeys hchain hprepared
        | ok => exact .searched hready hkeys hchain hprepared

/-- Once the expiration is prepared, the search is a run on the transaction. -/
theorem exists_run_of_prepared {t : Transaction} (hsurplus : t.frame.NoSurplus) {config : Config}
    (hprepared : (t.prepareExpiration config).result = .ok ()) (chain : Bytes)
    (keys : List KeyPair) (attempts : Nat) :
    ∃ start n, t.StartsAt config start ∧
      Run t chain keys attempts start attempts n
        (search chain keys attempts (t.prepareExpiration config).left attempts).1
        (search chain keys attempts (t.prepareExpiration config).left attempts).2 := by
  obtain ⟨hstarts, _⟩ := startsAt_of_prepareExpiration hsurplus hprepared
  rcases prepareExpiration_left t config with hleft | ⟨e, _, hassign, _⟩
  · rw [hleft] at hstarts ⊢
    obtain ⟨n, hrun⟩ := exists_run_search chain keys attempts attempts hsurplus
    exact ⟨_, n, hstarts, hrun⟩
  · have hexpires := expiresAt_of_expireAt hsurplus hassign
    obtain ⟨n, hrun⟩ := exists_run_search chain keys attempts attempts hexpires.noSurplus
    exact ⟨_, n, hstarts, hrun.of_sameBody hexpires.body hexpires.admits⟩

/-- A pass whose expiration is prepared is the search. -/
theorem signPass_of_prepared {t : Transaction} {lookup : Lookup σ} {config : Config}
    {chainId : Value} {s : σ} {keys : List KeyPair} {chain : Bytes}
    (hready : t.checkPreconditions = .ok ())
    (hkeys : (Resolver.resolve lookup t.operations s).1 = .ok keys)
    (hchain : chainOf config chainId = .ok chain)
    (hprepared : (t.prepareExpiration config).result = .ok ()) :
    (t.signPass lookup config chainId s).1.left
        = (search chain keys config.maxSigningAttempts (t.prepareExpiration config).left
          config.maxSigningAttempts).1 ∧
      (t.signPass lookup config chainId s).1.result
        = (search chain keys config.maxSigningAttempts (t.prepareExpiration config).left
          config.maxSigningAttempts).2 := by
  rcases hresolve : Resolver.resolve lookup t.operations s with ⟨found, s'⟩
  have hfound : found = .ok keys := by rw [← hkeys, hresolve]
  subst hfound
  unfold signPass
  simp only [hready, hresolve, hchain, hprepared, and_self]

/-- A pass whose expiration is not prepared ends there. -/
theorem signPass_of_unprepared {t : Transaction} {lookup : Lookup σ} {config : Config}
    {chainId : Value} {s : σ} {keys : List KeyPair} {chain : Bytes} {failure : Failure}
    (hready : t.checkPreconditions = .ok ())
    (hkeys : (Resolver.resolve lookup t.operations s).1 = .ok keys)
    (hchain : chainOf config chainId = .ok chain)
    (hprepared : (t.prepareExpiration config).result = .error failure) :
    (t.signPass lookup config chainId s).1.left = (t.prepareExpiration config).left ∧
      (t.signPass lookup config chainId s).1.result = .error failure := by
  rcases hresolve : Resolver.resolve lookup t.operations s with ⟨found, s'⟩
  have hfound : found = .ok keys := by rw [← hkeys, hresolve]
  subst hfound
  unfold signPass
  simp only [hready, hresolve, hchain, hprepared, and_self]

/-- What stops a pass before it has set an expiration: a precondition, a key, the chain id, or an
expiration that is too late. -/
def RefusedEarly (t : Transaction) (lookup : Lookup σ) (config : Config) (chainId : Value)
    (s : σ) : Prop :=
  (∃ failure, t.checkPreconditions = .error failure) ∨
  (∃ failure, (Resolver.resolve lookup t.operations s).1 = .error failure) ∨
  (∃ failure, chainOf config chainId = .error failure) ∨
  ∃ stamp details,
    (t.prepareExpiration config).result = .error (refused (lateMessage stamp) details)

theorem not_refusedEarly {t : Transaction} {lookup : Lookup σ} {config : Config} {chainId : Value}
    {s : σ} {keys : List KeyPair} {chain : Bytes} (hready : t.checkPreconditions = .ok ())
    (hkeys : (Resolver.resolve lookup t.operations s).1 = .ok keys)
    (hchain : chainOf config chainId = .ok chain)
    (hprepared : ∀ fault, (t.prepareExpiration config).result ≠ .error (.own fault)) :
    ¬ t.RefusedEarly lookup config chainId s := by
  rintro (⟨failure, h⟩ | ⟨failure, h⟩ | ⟨failure, h⟩ | ⟨stamp, details, h⟩)
  · rw [hready] at h
    cases h
  · rw [hkeys] at h
    cases h
  · rw [hchain] at h
    cases h
  · exact hprepared _ h

/-- A pass has rejected `n` attempts, and what it leaves expires that many seconds after the start
of the search. -/
structure Advanced (t : Transaction) (lookup : Lookup σ) (config : Config) (chainId : Value)
    (s : σ) (left : Transaction) (start n : Nat) (keys : List KeyPair) (chain : Bytes) : Prop where
  startsAt : t.StartsAt config start
  keys_eq : (Resolver.resolve lookup t.operations s).1 = .ok keys
  chain_eq : chainOf config chainId = .ok chain
  le_attempts : n ≤ config.maxSigningAttempts
  expiration : left.expiration = ⟨start + n⟩
  rejected : ∀ i < n, t.attemptFrom chain keys start i = .ok none

/-- A pass brings no members beyond the fields. -/
theorem PassOutcome.noSurplus {t left : Transaction} {lookup : Lookup σ} {config : Config}
    {chainId : Value} {s : σ} {result : Except Failure (List Bytes)} (hsurplus : t.frame.NoSurplus)
    (h : PassOutcome t lookup config chainId s left result) : left.frame.NoSurplus := by
  cases h with
  | refused _ => exact hsurplus
  | unprepared _ _ _ _ =>
    rcases prepareExpiration_left t config with hleft | ⟨e, _, hassign, _⟩
    · rw [hleft]
      exact hsurplus
    · exact (expiresAt_of_expireAt hsurplus hassign).noSurplus
  | @searched keys chain _ _ _ hprepared =>
    obtain ⟨_, _, _, hrun⟩ := exists_run_of_prepared hsurplus hprepared chain keys
      config.maxSigningAttempts
    exact hrun.noSurplus

/-- A pass leaves the body as it was, and the expiration too unless it has advanced. -/
theorem PassOutcome.left_spec {t left : Transaction} {lookup : Lookup σ} {config : Config}
    {chainId : Value} {s : σ} {result : Except Failure (List Bytes)} (hsurplus : t.frame.NoSurplus)
    (h : PassOutcome t lookup config chainId s left result) :
    SameBody t left ∧
      (t.RefusedEarly lookup config chainId s → left.expiration = t.expiration) ∧
      (left.expiration = t.expiration ∨
        ∃ start n keys chain, t.Advanced lookup config chainId s left start n keys chain ∧
          (n = config.maxSigningAttempts ∨ t.attemptFrom chain keys start n ≠ .ok none ∨
            ∃ cause, result = .error (.foreign cause) ∧
              TimePoint.stamp ⟨start + n⟩ = .error (.foreign cause))) := by
  cases h with
  | refused _ => exact ⟨.refl t, fun _ ↦ rfl, .inl rfl⟩
  | @unprepared keys chain failure hready hkeys hchain hprepared =>
    rcases prepareExpiration_left t config with hleft | ⟨e, hstarts, hassign, hresult⟩
    · rw [hleft]
      exact ⟨.refl t, fun _ ↦ rfl, .inl rfl⟩
    · -- the default expiration is in place, but it has no time stamp
      have hexpires := expiresAt_of_expireAt hsurplus hassign
      have hstamp : e.stamp = .error failure := by
        rw [hprepared] at hresult
        cases he : e.stamp with
        | ok text =>
          rw [he] at hresult
          cases hresult
        | error failure' =>
          rw [he] at hresult
          cases hresult
          rfl
      obtain ⟨cause, rfl⟩ := TimePoint.stamp_error hstamp
      have hearly : ¬ t.RefusedEarly lookup config chainId s :=
        not_refusedEarly hready hkeys hchain (by simp [hprepared])
      refine ⟨hexpires.body, fun h ↦ absurd h hearly, .inr ⟨e.seconds, 0, keys, chain,
        ⟨hstarts, hkeys, hchain, Nat.zero_le _, hexpires.expiration, ?_⟩,
        .inr (.inr ⟨cause, rfl, hstamp⟩)⟩⟩
      intro i hi
      exact absurd hi (Nat.not_lt_zero i)
  | @searched keys chain hready hkeys hchain hprepared =>
    obtain ⟨start, n, hstarts, hrun⟩ := exists_run_of_prepared hsurplus hprepared chain keys
      config.maxSigningAttempts
    have hearly : ¬ t.RefusedEarly lookup config chainId s :=
      not_refusedEarly hready hkeys hchain (by simp [hprepared])
    have hadvanced : t.Advanced lookup config chainId s _ start n keys chain :=
      ⟨hstarts, hkeys, hchain, hrun.ending.le_bound, hrun.expiration, hrun.rejected⟩
    refine ⟨hrun.body, fun h ↦ absurd h hearly, ?_⟩
    rcases hrun.ending.stops with hexhausted | hattempt | hstamp | ⟨hzero, hrefused⟩
    · exact .inr ⟨start, n, keys, chain, hadvanced, .inl hexhausted⟩
    · exact .inr ⟨start, n, keys, chain, hadvanced, .inr (.inl hattempt)⟩
    · exact .inr ⟨start, n, keys, chain, hadvanced, .inr (.inr hstamp)⟩
    · -- an expiration that cannot be assigned was set before
      apply Or.inl
      cases hset : t.expiration.isSet with
      | true => rw [hrun.expiration, hzero, Nat.add_zero, hstarts.1 hset]
      | false =>
        rw [(startsAt_of_prepareExpiration hsurplus hprepared).2 hset] at hrefused
        cases hrefused

end Transaction

namespace SignedTransaction

open Transaction

variable {σ : Type}

/-- The ways in which signing can go, given its pass: the pass fails, what holds the signatures is
no list, or the signatures are appended in hexadecimal digits. -/
inductive SignOutcome (t : SignedTransaction) (pass : Pass (List Bytes)) :
    SignedTransaction → Except Failure (List Text) → Prop
  | failed {failure} (h : pass.result = .error failure) :
      SignOutcome t pass (t.around pass.left) (.error failure)
  | closed {signatures} (hholder : t.signaturesHolder ≠ .list) (h : pass.result = .ok signatures) :
      SignOutcome t pass (t.around pass.left) (.error uneditable)
  | appended {signatures} (hholder : t.signaturesHolder = .list)
      (h : pass.result = .ok signatures) :
      SignOutcome t pass
        { t.around pass.left with
          signatures := t.signatures ++ (signatures.map Bytes.hex).map .chars }
        (.ok (signatures.map Bytes.hex))

theorem signOutcome_sign (t : SignedTransaction) (lookup : Lookup σ) (config : Config)
    (chainId : Value) (s : σ) :
    SignOutcome t (t.toTransaction.signPass lookup config chainId s).1
      (t.sign lookup config chainId s).1.left (t.sign lookup config chainId s).1.result := by
  unfold sign
  rcases t.toTransaction.signPass lookup config chainId s with ⟨⟨left, warnings, result⟩, s'⟩
  cases result with
  | error failure => exact .failed rfl
  | ok signatures =>
    have hsame : (t.around left).signaturesHolder = t.signaturesHolder := rfl
    dsimp only
    unfold append
    rw [hsame]
    by_cases hholder : t.signaturesHolder = .list
    · rw [if_pos hholder]
      exact .appended hholder rfl
    · rw [if_neg hholder]
      exact .closed hholder rfl

/-- Signing fails as its pass does, or because what holds the signatures is no list; it leaves what
the pass leaves, and the signatures as they were. -/
theorem sign_of_error {t : SignedTransaction} {lookup : Lookup σ} {config : Config}
    {chainId : Value} {s : σ} {failure : Failure}
    (h : (t.sign lookup config chainId s).1.result = .error failure) :
    (t.sign lookup config chainId s).1.left
        = t.around (t.toTransaction.signPass lookup config chainId s).1.left ∧
      ((t.toTransaction.signPass lookup config chainId s).1.result = .error failure ∨
        failure = uneditable ∧
          ∃ signatures,
            (t.toTransaction.signPass lookup config chainId s).1.result = .ok signatures) := by
  have houtcome := signOutcome_sign t lookup config chainId s
  rw [h] at houtcome
  generalize (t.sign lookup config chainId s).1.left = left at houtcome ⊢
  cases houtcome with
  | failed hpass => exact ⟨rfl, .inl hpass⟩
  | closed _ hpass => exact ⟨rfl, .inr ⟨rfl, _, hpass⟩⟩

/-- If what holds the signatures is a list, then signing only fails as its pass does. -/
theorem signPass_error_of_sign {t : SignedTransaction} {lookup : Lookup σ} {config : Config}
    {chainId : Value} {s : σ} {failure : Failure} (hlist : t.signaturesHolder = .list)
    (h : (t.sign lookup config chainId s).1.result = .error failure) :
    (t.toTransaction.signPass lookup config chainId s).1.result = .error failure := by
  have houtcome := signOutcome_sign t lookup config chainId s
  rw [h] at houtcome
  generalize (t.sign lookup config chainId s).1.left = left at houtcome
  cases houtcome with
  | failed hpass => exact hpass
  | closed hholder _ => exact absurd hlist hholder

/-- If the pass fails, then signing fails in the same way. -/
theorem sign_of_signPass_error {t : SignedTransaction} {lookup : Lookup σ} {config : Config}
    {chainId : Value} {s : σ} {failure : Failure}
    (h : (t.toTransaction.signPass lookup config chainId s).1.result = .error failure) :
    (t.sign lookup config chainId s).1.result = .error failure ∧
      (t.sign lookup config chainId s).1.left
        = t.around (t.toTransaction.signPass lookup config chainId s).1.left := by
  have houtcome := signOutcome_sign t lookup config chainId s
  generalize (t.sign lookup config chainId s).1.left = left at houtcome ⊢
  generalize (t.sign lookup config chainId s).1.result = result at houtcome ⊢
  cases houtcome with
  | failed hpass =>
    rw [h] at hpass
    cases hpass
    exact ⟨rfl, rfl⟩
  | closed _ hpass =>
    rw [h] at hpass
    cases hpass
  | appended _ hpass =>
    rw [h] at hpass
    cases hpass

/-- If signing succeeds, its pass does, and its signatures are appended in hexadecimal digits. -/
theorem sign_of_ok {t : SignedTransaction} {lookup : Lookup σ} {config : Config}
    {chainId : Value} {s : σ} {texts : List Text}
    (h : (t.sign lookup config chainId s).1.result = .ok texts) :
    ∃ signatures, (t.toTransaction.signPass lookup config chainId s).1.result = .ok signatures ∧
      texts = signatures.map Bytes.hex ∧
      (t.sign lookup config chainId s).1.left.toTransaction
        = (t.toTransaction.signPass lookup config chainId s).1.left ∧
      (t.sign lookup config chainId s).1.left.signatures = t.signatures ++ texts.map .chars := by
  have houtcome := signOutcome_sign t lookup config chainId s
  rw [h] at houtcome
  generalize (t.sign lookup config chainId s).1.left = left at houtcome ⊢
  cases houtcome with
  | appended _ hpass => exact ⟨_, hpass, rfl, rfl, rfl⟩

/-- If signing succeeds, then nothing has refused it, and the search gives the signatures that are
appended. -/
theorem search_of_sign {t : SignedTransaction} {lookup : Lookup σ} {config : Config}
    {chainId : Value} {s : σ} {texts : List Text}
    (h : (t.sign lookup config chainId s).1.result = .ok texts) :
    ∃ keys chain signatures, t.checkPreconditions = .ok () ∧
      (Resolver.resolve lookup t.operations s).1 = .ok keys ∧
      chainOf config chainId = .ok chain ∧
      (t.toTransaction.prepareExpiration config).result = .ok () ∧
      search chain keys config.maxSigningAttempts (t.toTransaction.prepareExpiration config).left
          config.maxSigningAttempts
        = ((t.sign lookup config chainId s).1.left.toTransaction, .ok signatures) ∧
      texts = signatures.map Bytes.hex ∧
      (t.sign lookup config chainId s).1.left.signatures = t.signatures ++ texts.map .chars := by
  obtain ⟨signatures, hpass, htexts, hleft, hsignatures⟩ := sign_of_ok h
  have houtcome := passOutcome_signPass t.toTransaction lookup config chainId s
  rw [hleft]
  rw [hpass] at houtcome
  generalize (t.toTransaction.signPass lookup config chainId s).1.left = left at houtcome ⊢
  generalize hresult : (Except.ok signatures : Except Failure (List Bytes)) = result at houtcome
  cases houtcome with
  | refused => cases hresult
  | unprepared => cases hresult
  | @searched keys chain hready hkeys hchain hprepared =>
    exact ⟨keys, chain, signatures, hready, hkeys, hchain, hprepared,
      by rw [hresult], htexts, hsignatures⟩

/-- If signing succeeds, then its search is a run that gives the signatures. -/
theorem exists_run_of_sign {t : SignedTransaction} {lookup : Lookup σ} {config : Config}
    {chainId : Value} {s : σ} {texts : List Text} (hsurplus : t.frame.NoSurplus)
    (h : (t.sign lookup config chainId s).1.result = .ok texts) :
    ∃ keys chain start n signatures,
      (Resolver.resolve lookup t.operations s).1 = .ok keys ∧
      chainOf config chainId = .ok chain ∧ t.StartsAt config start ∧
      Run t.toTransaction chain keys config.maxSigningAttempts start config.maxSigningAttempts n
        (t.sign lookup config chainId s).1.left.toTransaction (.ok signatures) ∧
      texts = signatures.map Bytes.hex ∧
      (t.sign lookup config chainId s).1.left.signatures = t.signatures ++ texts.map .chars := by
  obtain ⟨keys, chain, signatures, _, hkeys, hchain, hprepared, hsearch, htexts, hsignatures⟩ :=
    search_of_sign h
  obtain ⟨start, n, hstarts, hrun⟩ := exists_run_of_prepared hsurplus hprepared chain keys
    config.maxSigningAttempts
  rw [hsearch] at hrun
  exact ⟨keys, chain, start, n, signatures, hkeys, hchain, hstarts, hrun, htexts, hsignatures⟩

/-- If the search gives signatures, then signing does, and it leaves them behind the ones that are
there. -/
theorem sign_of_search {t : SignedTransaction} {lookup : Lookup σ} {config : Config}
    {chainId : Value} {s : σ} {keys : List KeyPair} {chain : Bytes} {left : Transaction}
    {signatures : List Bytes} (hready : t.checkPreconditions = .ok ())
    (hkeys : (Resolver.resolve lookup t.operations s).1 = .ok keys)
    (hchain : chainOf config chainId = .ok chain)
    (hprepared : (t.toTransaction.prepareExpiration config).result = .ok ())
    (hsearch : search chain keys config.maxSigningAttempts
      (t.toTransaction.prepareExpiration config).left config.maxSigningAttempts
        = (left, .ok signatures))
    (hlist : t.signaturesHolder = .list) :
    (t.sign lookup config chainId s).1.result = .ok (signatures.map Bytes.hex) ∧
      (t.sign lookup config chainId s).1.left
        = { t.around left with
            signatures := t.signatures ++ (signatures.map Bytes.hex).map .chars } := by
  obtain ⟨hleft, hpass⟩ := signPass_of_prepared hready hkeys hchain hprepared
  rw [hsearch] at hleft hpass
  have houtcome := signOutcome_sign t lookup config chainId s
  generalize (t.sign lookup config chainId s).1.left = u at houtcome ⊢
  generalize (t.sign lookup config chainId s).1.result = result at houtcome ⊢
  cases houtcome with
  | failed h =>
    rw [hpass] at h
    cases h
  | closed hholder => exact absurd hlist hholder
  | appended _ h =>
    rw [hpass] at h
    cases h
    exact ⟨rfl, by rw [hleft]⟩

/-- If the first attempt gives signatures, then signing does. -/
theorem sign_of_attempt {t : SignedTransaction} {lookup : Lookup σ} {config : Config}
    {chainId : Value} {s : σ} {keys : List KeyPair} {chain : Bytes} {signatures : List Bytes}
    (hready : t.checkPreconditions = .ok ())
    (hkeys : (Resolver.resolve lookup t.operations s).1 = .ok keys)
    (hchain : chainOf config chainId = .ok chain)
    (hprepared : (t.toTransaction.prepareExpiration config).result = .ok ())
    (hattempt : (t.toTransaction.prepareExpiration config).left.attempt chain keys
      = .ok (some signatures))
    (hlist : t.signaturesHolder = .list) :
    (t.sign lookup config chainId s).1.result = .ok (signatures.map Bytes.hex) ∧
      (t.sign lookup config chainId s).1.left
        = { t.around (t.toTransaction.prepareExpiration config).left with
            signatures := t.signatures ++ (signatures.map Bytes.hex).map .chars } := by
  obtain ⟨remaining, hremaining⟩ :=
    Nat.exists_eq_succ_of_ne_zero (Nat.ne_of_gt config.attempts_pos)
  refine sign_of_search hready hkeys hchain hprepared ?_ hlist
  rw [hremaining]
  exact search_of_signed hattempt

/-- If the expiration is set and every key has a canonical signature with it, then these signatures
are appended and nothing else changes. -/
theorem sign_of_forall₂ {t : SignedTransaction} {lookup : Lookup σ} {config : Config}
    {chainId : Value} {s : σ} {keys : List KeyPair} {chain digest : Bytes}
    {signatures : List Bytes} (hready : t.checkPreconditions = .ok ())
    (hkeys : (Resolver.resolve lookup t.operations s).1 = .ok keys)
    (hchain : chainOf config chainId = .ok chain) (hset : t.expiration.isSet = true)
    (hprepared : (t.toTransaction.prepareExpiration config).result = .ok ())
    (hdigest : t.toTransaction.digest chain = .ok digest)
    (hall : List.Forall₂ (fun k b ↦ k.SignsCanonically digest b) keys signatures)
    (hlist : t.signaturesHolder = .list) :
    (t.sign lookup config chainId s).1.result = .ok (signatures.map Bytes.hex) ∧
      (t.sign lookup config chainId s).1.left
        = { t with signatures := t.signatures ++ (signatures.map Bytes.hex).map .chars } := by
  have hleft : (t.toTransaction.prepareExpiration config).left = t.toTransaction :=
    prepareExpiration_of_isSet config hset
  have hattempt : (t.toTransaction.prepareExpiration config).left.attempt chain keys
      = .ok (some signatures) := by
    rw [hleft]
    exact attempt_of_forall₂ hdigest hall
  have hsign := sign_of_attempt hready hkeys hchain hprepared hattempt hlist
  rw [hleft] at hsign
  exact hsign

/-- A successful call of signing gives every key, in order, one canonical signature of the digest of
the transaction as it is left, and appends these signatures to the ones that are there. -/
theorem signedBy_of_sign (t : SignedTransaction) (lookup : Lookup σ) (config : Config)
    (chainId : Value) (s : σ) {texts : List Text}
    (h : (t.sign lookup config chainId s).1.result = .ok texts) :
    ∃ keys chain digest,
      (Resolver.resolve lookup t.operations s).1 = .ok keys ∧
      chainOf config chainId = .ok chain ∧
      (t.sign lookup config chainId s).1.left.digest chain = .ok digest ∧
      texts.length = keys.length ∧
      (t.sign lookup config chainId s).1.left.signatures = t.signatures ++ texts.map .chars ∧
      ∀ (i : Nat) k text, keys[i]? = some k → texts[i]? = some text →
        ∃ b, Hex.read text = .ok b ∧ Compact.SignedBy k digest b := by
  obtain ⟨signatures, hpass, rfl, hleft, hsignatures⟩ := sign_of_ok h
  have houtcome := passOutcome_signPass t.toTransaction lookup config chainId s
  rw [hpass] at houtcome
  rw [hleft]
  generalize (t.toTransaction.signPass lookup config chainId s).1.left = left at houtcome ⊢
  generalize hresult : (Except.ok signatures : Except Failure (List Bytes)) = result at houtcome
  cases houtcome with
  | refused => cases hresult
  | unprepared => cases hresult
  | @searched keys chain _ hkeys hchain _ =>
    have hattempt := attempt_of_search hresult.symm
    obtain ⟨digest, hdigest, hall⟩ := exists_of_bind_eq_ok hattempt
    have hforall := forall₂_of_signAll hall
    refine ⟨keys, chain, digest, hkeys, hchain, hdigest, ?_, hsignatures, ?_⟩
    · rw [List.length_map, hforall.length_eq]
    · intro i k text hk htext
      obtain ⟨hi, rfl⟩ := List.getElem?_eq_some_iff.mp hk
      rw [List.getElem?_map] at htext
      obtain ⟨b, hb, rfl⟩ := Option.map_eq_some_iff.mp htext
      obtain ⟨hi', rfl⟩ := List.getElem?_eq_some_iff.mp hb
      obtain ⟨hsign, hcanonical⟩ := hforall.get hi hi'
      exact ⟨_, Hex.read_hex _, KeyPair.signedBy_of_signCompact hsign hcanonical⟩

/-! ### A signed vote -/

section Vote

open Secp256k1

def voter : AccountName := ⟨lit "alice", by decide⟩

def voterKey : KeyPair := ⟨1, true, by decide, by decide⟩

/-- A vote that waits to be signed. -/
def vote : SignedTransaction :=
  { refBlockNum := .int 34294, refBlockPrefix := .int 3707022213, expiration := ⟨1451606404⟩
    operations := [(Operation.vote ⟨voter, ⟨lit "bob", by decide⟩, lit "post", 10000, by decide,
      by decide⟩).toEntry]
    extensions := [], signatures := [] }

/-- The keys that are there. -/
def wallet : KeyStore := ⟨[(voter, [(.posting, voterKey)])]⟩

/-- The default settings, a little before the vote expires. -/
def network : Config := .default (.ok (.int 1451606400))

def voteDigest : Bytes :=
  bigEndian 32 0x4f9e94e0b4ed8f3544eaf514e5eab81c1522bdb7c926e7d11702d1ba49d4a996

/-- The integers of the signature of the vote. -/
def voteParts : Signature :=
  ⟨0x5c8dbdf41eb26998185ac21fc6d10d89a5ac62f12f71ca937987c98891a79d47,
    0x22392e24504326843262bc7bec5bbe32a9d9c0a08cfd779f4d038cbbbaa115b1⟩

def voteSignature : Bytes := 31 :: bigEndian 32 voteParts.r ++ bigEndian 32 voteParts.s

def voterPoint : Candidate :=
  ⟨0x79be667ef9dcbbac55a06295ce870b07029bfcdb2dce28d959f2815b16f81798,
    0x483ada7726a3c4655da4fbfc0e1108a8fd17b448a68554199c47d08ffb10d4b8⟩

theorem ofPoint?_voterKey : Candidate.ofPoint? voterKey.publicPoint = some voterPoint := by
  decide +kernel

/-- How the voter signs the vote. -/
def voteCalculation : KeyPair.Calculation voterKey voteDigest where
  half := ⟨
    bigEndian 32 0x290858f73983f4cb48e3550e462fbf4b86da95c2e478464c77174eaeed02e248,
    bigEndian 32 0x6bee973cb8f3f7a0d2760aa4fcf6ae725741bc6df9627457f6f7c5f05e3b6149⟩
  seeded := ⟨
    bigEndian 32 0xece8284652a6bbca2305dcd2ad5392a6e0e142ecc8fd6bc2c187812bc8e3e9fa,
    bigEndian 32 0x7e369dbf2de01d3bd39977d207e18ff273d1d20430a06d274c99a441664bd76f⟩
  nonce := 0x6051cfbb5b7e976979cebb4f03ba975e4de9d43ad38b2274d71cc2a00fea5eaa
  signature := voteParts
  id := 0
  candidate := voterPoint
  public_eq := ofPoint?_voterKey

theorem signsCanonically_vote : voterKey.SignsCanonically voteDigest voteSignature :=
  ⟨voteCalculation.signCompact (length_bigEndian _ _) (by decide) rfl, rfl⟩

/-- The chain of the default settings. -/
def zeroChain : Bytes := List.replicate 32 0

theorem resolve_vote :
    (Resolver.resolve KeyStore.lookup vote.operations wallet).1 = .ok [voterKey] := rfl

theorem checkPreconditions_vote : vote.checkPreconditions = .ok () := rfl

theorem chainOf_network : chainOf network .null = .ok zeroChain := rfl

theorem prepareExpiration_vote : (vote.prepareExpiration network).result = .ok () := rfl

theorem digest_vote : vote.toTransaction.digest zeroChain = .ok voteDigest :=
  eq_ok_of_toOption (by decide +kernel)

/-- The vote with its signature. -/
def signedVote : SignedTransaction := { vote with signatures := [.chars voteSignature.hex] }

theorem sign_vote_eq :
    (vote.sign KeyStore.lookup network .null wallet).1.result = .ok [voteSignature.hex] ∧
      (vote.sign KeyStore.lookup network .null wallet).1.left = signedVote :=
  sign_of_forall₂ checkPreconditions_vote resolve_vote chainOf_network rfl prepareExpiration_vote
    digest_vote (.cons signsCanonically_vote .nil) rfl

theorem sign_vote :
    (vote.sign KeyStore.lookup network .null wallet).1.result = .ok [voteSignature.hex] :=
  sign_vote_eq.1

/-- The signature of the vote is a signature by the key of the voter. -/
theorem signedBy_of_sign_vote :
    (vote.sign KeyStore.lookup network .null wallet).1.result = .ok [voteSignature.hex] ∧
      ∃ b digest, Hex.read voteSignature.hex = .ok b ∧ Compact.SignedBy voterKey digest b := by
  obtain ⟨keys, chain, digest, hkeys, _, _, _, _, hall⟩ :=
    signedBy_of_sign vote KeyStore.lookup network .null wallet sign_vote
  rw [resolve_vote] at hkeys
  cases hkeys
  obtain ⟨b, hb, hsigned⟩ := hall 0 voterKey voteSignature.hex rfl rfl
  exact ⟨sign_vote, b, digest, hb, hsigned⟩

end Vote

/-- Once a call of signing has prepared the expiration, its search is exact.  If it gives
signatures, the expiration that it leaves is the first one with which every key has a canonical
signature.  If it exhausts its attempts, none of them had one; only an operation outside of the
catalogue can raise the same failure by itself, and then the first attempt has no digest.  If it
meets an encoding fault after the first attempt, the expiration has reached 2 to the power 32.  That
no members wait beyond the fields holds of every transaction that a caller can come by. -/
theorem search_exact_of_sign (t : SignedTransaction) (lookup : Lookup σ) (config : Config)
    (chainId : Value) (s : σ) {keys : List KeyPair} {chain : Bytes}
    (hsurplus : t.frame.NoSurplus) (hready : t.checkPreconditions = .ok ())
    (hkeys : (Resolver.resolve lookup t.operations s).1 = .ok keys)
    (hchain : chainOf config chainId = .ok chain)
    (hprepared : (t.toTransaction.prepareExpiration config).result = .ok ()) :
    ∃ start, t.StartsAt config start ∧
      (∀ texts, (t.sign lookup config chainId s).1.result = .ok texts →
        ∃ k, k < config.maxSigningAttempts ∧
          IsLeast {j | t.AllCanonical chain keys ⟨start + j⟩} k ∧
          (t.sign lookup config chainId s).1.left.expiration = ⟨start + k⟩) ∧
      ((t.sign lookup config chainId s).1.result = .error (exhausted config.maxSigningAttempts) →
        ((∀ j < config.maxSigningAttempts, ¬ t.AllCanonical chain keys ⟨start + j⟩) ∧
          (t.sign lookup config chainId s).1.left.expiration
            = ⟨start + config.maxSigningAttempts⟩) ∨
        (Raises t.operations (exhausted config.maxSigningAttempts) ∧
          (t.expiring ⟨start⟩).digest chain = .error (exhausted config.maxSigningAttempts))) ∧
      (∀ fault digest, (t.sign lookup config chainId s).1.result = .error (.own fault) →
        fault.report.kind = .encoding → (t.expiring ⟨start⟩).digest chain = .ok digest →
        ∃ j, 0 < j ∧ j < config.maxSigningAttempts ∧ start + j = 2 ^ 32 ∧
          (t.sign lookup config chainId s).1.left.expiration = ⟨start + j⟩ ∧
          .own fault = expirationMisfit ⟨start + j⟩) := by
  obtain ⟨hleft, hresult⟩ := signPass_of_prepared hready hkeys hchain hprepared
  obtain ⟨start, n, hstarts, hrun⟩ := exists_run_of_prepared hsurplus hprepared chain keys
    config.maxSigningAttempts
  rw [← hleft, ← hresult] at hrun
  refine ⟨start, hstarts, ?_, ?_, ?_⟩
  · intro texts h
    obtain ⟨signatures, hpass, _, hsame, _⟩ := sign_of_ok h
    have hexpiration := hrun.expiration
    rw [hpass] at hrun
    obtain ⟨hn, hleast⟩ := hrun.isLeast
    exact ⟨n, hn, hleast, by rw [hsame, hexpiration]⟩
  · intro h
    obtain ⟨hsame, hpass | ⟨hedit, _⟩⟩ := sign_of_error h
    · have hexpiration := hrun.expiration
      have hrejected := hrun.not_allCanonical
      rw [hpass] at hrun
      rcases hrun.eq_bound_of_exhausted with rfl | hraises
      · refine .inl ⟨hrejected, ?_⟩
        rw [hsame]
        exact hexpiration
      · exact .inr hraises
    · cases hedit
  · intro fault digest h hkind hdigest
    obtain ⟨hsame, hpass | ⟨hedit, _⟩⟩ := sign_of_error h
    · have hexpiration := hrun.expiration
      rw [hpass] at hrun
      obtain ⟨hpos, hn, hsum, hmisfit⟩ := hrun.eq_of_encoding hkind hdigest
      refine ⟨n, hpos, hn, hsum, ?_, hmisfit⟩
      rw [hsame]
      exact hexpiration
    · cases hedit

/-- The search for a signature of the vote is exact. -/
theorem search_exact_of_sign_vote :
    ∃ start k, vote.StartsAt network start ∧ k < network.maxSigningAttempts ∧
      IsLeast {j | vote.AllCanonical zeroChain [voterKey] ⟨start + j⟩} k ∧
      (vote.sign KeyStore.lookup network .null wallet).1.left.expiration = ⟨start + k⟩ := by
  obtain ⟨start, hstarts, hsigned, _⟩ :=
    search_exact_of_sign vote KeyStore.lookup network .null wallet Frame.noSurplus_intact
      checkPreconditions_vote resolve_vote chainOf_network prepareExpiration_vote
  obtain ⟨k, hk, hleast, hexpiration⟩ := hsigned _ sign_vote
  exact ⟨start, k, hstarts, hk, hleast, hexpiration⟩

/-- A call of signing that fails leaves the signatures and the body of the transaction as they
were, and also the expiration, or it leaves the one with which the search starts plus the number of
rejected attempts.  That no members wait beyond the fields holds of every transaction that a caller
can come by. -/
theorem left_of_sign_error (t : SignedTransaction) (lookup : Lookup σ) (config : Config)
    (chainId : Value) (s : σ) (hsurplus : t.frame.NoSurplus) {failure : Failure}
    (h : (t.sign lookup config chainId s).1.result = .error failure) :
    (t.sign lookup config chainId s).1.left.signatures = t.signatures ∧
      (t.sign lookup config chainId s).1.left.signaturesHolder = t.signaturesHolder ∧
      SameBody t.toTransaction (t.sign lookup config chainId s).1.left.toTransaction ∧
      (t.RefusedEarly lookup config chainId s →
        (t.sign lookup config chainId s).1.left.expiration = t.expiration) ∧
      ((t.sign lookup config chainId s).1.left.expiration = t.expiration ∨
        ∃ start n keys chain, t.Advanced lookup config chainId s
            (t.sign lookup config chainId s).1.left.toTransaction start n keys chain ∧
          (n = config.maxSigningAttempts ∨ t.attemptFrom chain keys start n ≠ .ok none ∨
            TimePoint.stamp ⟨start + n⟩ = .error failure)) := by
  obtain ⟨hsame, hfailure⟩ := sign_of_error h
  rw [hsame]
  refine ⟨rfl, rfl, ?_⟩
  have houtcome := passOutcome_signPass t.toTransaction lookup config chainId s
  obtain ⟨hbody, hearly, hexpiration⟩ := houtcome.left_spec hsurplus
  refine ⟨hbody, hearly, ?_⟩
  rcases hexpiration with hkept | ⟨start, n, keys, chain, hadvanced, hstops⟩
  · exact .inl hkept
  · refine .inr ⟨start, n, keys, chain, hadvanced, ?_⟩
    rcases hstops with hexhausted | hattempt | ⟨cause, hresult, hstamp⟩
    · exact .inl hexhausted
    · exact .inr (.inl hattempt)
    · rcases hfailure with hpass | ⟨_, signatures, hpass⟩
      · rw [hpass] at hresult
        cases hresult
        exact .inr (.inr hstamp)
      · rw [hpass] at hresult
        cases hresult

/-- A vote without expiration whose block number has no two bytes. -/
def unwritableVote : SignedTransaction :=
  { vote with refBlockNum := .int 65536, expiration := .unset }

/-- The vote that cannot be written is left with the default expiration and without signatures. -/
theorem left_of_sign_error_unwritable :
    ∃ failure, (unwritableVote.sign KeyStore.lookup network .null wallet).1.result
        = .error failure ∧
      (unwritableVote.sign KeyStore.lookup network .null wallet).1.left.signatures = [] ∧
      (unwritableVote.sign KeyStore.lookup network .null wallet).1.left.refBlockNum
        = .int 65536 ∧
      (unwritableVote.sign KeyStore.lookup network .null wallet).1.left.expiration
        = ⟨1451609940⟩ := by
  have hnone : (unwritableVote.sign KeyStore.lookup network .null wallet).1.result.toOption
      = none := by
    decide +kernel
  obtain ⟨failure, hfailure⟩ := exists_error_of_toOption hnone
  obtain ⟨hsignatures, _, hbody, _⟩ := left_of_sign_error unwritableVote KeyStore.lookup network
    .null wallet Frame.noSurplus_intact hfailure
  exact ⟨failure, hfailure, hsignatures, hbody.refBlockNum, by decide +kernel⟩

end SignedTransaction

end GrapheneSigner
