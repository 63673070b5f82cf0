import Mathlib.Data.List.Forall2
import GrapheneSigner.Proofs.Signing.Compact
import GrapheneSigner.Proofs.Transaction.Digest
import GrapheneSigner.Proofs.Transaction.Expiration
import GrapheneSigner.Signing.Engine

/-!
# Attempts at canonical signatures

An attempt gives signatures if every key has a canonical one, and is rejected at the first key that
has not.  Its failures are the ones of the digest and of the keys, and the keys neither refuse a
wire form nor say that the attempts are exhausted.
-/

namespace GrapheneSigner

namespace KeyPair

/-- A key makes a canonical signature of a digest. -/
def SignsCanonically (k : KeyPair) (digest b : Bytes) : Prop :=
  k.signCompact digest = .ok b ∧ Compact.isCanonical b = true

theorem error_of_findCandidate {k : KeyPair} {r s : Int} {digest : Bytes} {ids : List Nat}
    {failure : Failure} (h : k.findCandidate r s digest ids = .error failure) :
    failure = noCandidate digest ∨ ∃ cause, failure = .foreign cause := by
  induction ids with
  | nil =>
    cases h
    exact .inl rfl
  | cons id rest ih =>
    unfold findCandidate at h
    cases hrecover : Secp256k1.recover id r s digest with
    | error fault =>
      simp only [hrecover, Except.error.injEq] at h
      exact .inr ⟨_, h.symm⟩
    | ok candidate =>
      simp only [hrecover] at h
      split at h
      · cases h
      · exact ih h

theorem error_of_encode {id r s : Int} {compressed : Bool} {failure : Failure}
    (h : Compact.encode id r s compressed = .error failure) :
    ∃ cause, failure = .foreign cause := by
  unfold Compact.encode at h
  generalize Compact.headerBase + id + (if compressed then Compact.compressedFlag else 0)
    = header at h
  dsimp only at h
  split at h
  · split at h
    · cases h
    · cases h
      exact ⟨_, rfl⟩
  · cases h
    exact ⟨_, rfl⟩

/-- How a key fails to sign a digest of 32 bytes. -/
theorem error_of_signCompact {k : KeyPair} {digest : Bytes} (hlength : digest.length = 32)
    {failure : Failure} (h : k.signCompact digest = .error failure) :
    failure = noNonce ∨ failure = noCandidate digest ∨ ∃ cause, failure = .foreign cause := by
  rcases of_bind_eq_error h with hsign | ⟨signature, _, h⟩
  · unfold sign at hsign
    rw [if_neg (not_not_intro hlength)] at hsign
    split at hsign
    · cases hsign
    · cases hsign
      exact .inl rfl
  rcases of_bind_eq_error h with hid | ⟨id, _, h⟩
  · exact .inr (error_of_findCandidate hid)
  · exact .inr (.inr (error_of_encode h))

end KeyPair

namespace Transaction

/-! ## One pass over the keys -/

theorem forall₂_of_signAll {digest : Bytes} {keys : List KeyPair} {signatures : List Bytes}
    (h : signAll digest keys = .ok (some signatures)) :
    List.Forall₂ (fun k b ↦ k.SignsCanonically digest b) keys signatures := by
  induction keys generalizing signatures with
  | nil =>
    cases h
    exact .nil
  | cons k rest ih =>
    unfold signAll at h
    cases hsign : k.signCompact digest with
    | error failure => simp [hsign] at h
    | ok b =>
      simp only [hsign] at h
      split at h
      · rename_i hcanonical
        cases hrest : signAll digest rest with
        | error failure => simp [hrest, Except.map] at h
        | ok found =>
          cases found with
          | none => simp [hrest, Except.map] at h
          | some more =>
            rw [hrest] at h
            cases h
            exact .cons ⟨hsign, hcanonical⟩ (ih hrest)
      · cases h

theorem rejected_of_signAll {digest : Bytes} {keys : List KeyPair}
    (h : signAll digest keys = .ok none) :
    ∃ k ∈ keys, ∃ b, k.signCompact digest = .ok b ∧ Compact.isCanonical b = false := by
  induction keys with
  | nil => cases h
  | cons k rest ih =>
    unfold signAll at h
    cases hsign : k.signCompact digest with
    | error failure => simp [hsign] at h
    | ok b =>
      simp only [hsign] at h
      cases hcanonical : Compact.isCanonical b with
      | false => exact ⟨k, List.mem_cons_self, b, hsign, hcanonical⟩
      | true =>
        rw [hcanonical, if_pos rfl] at h
        cases hrest : signAll digest rest with
        | error failure => simp [hrest, Except.map] at h
        | ok found =>
          cases found with
          | some more => simp [hrest, Except.map] at h
          | none =>
            obtain ⟨k', hmem, hrejected⟩ := ih hrest
            exact ⟨k', List.mem_cons_of_mem _ hmem, hrejected⟩

theorem error_of_signAll {digest : Bytes} {keys : List KeyPair} {failure : Failure}
    (h : signAll digest keys = .error failure) :
    ∃ k ∈ keys, k.signCompact digest = .error failure := by
  induction keys with
  | nil => cases h
  | cons k rest ih =>
    unfold signAll at h
    cases hsign : k.signCompact digest with
    | error failure' =>
      simp only [hsign, Except.error.injEq] at h
      subst h
      exact ⟨k, List.mem_cons_self, hsign⟩
    | ok b =>
      simp only [hsign] at h
      split at h
      · cases hrest : signAll digest rest with
        | ok found => simp [hrest, Except.map] at h
        | error failure' =>
          rw [hrest] at h
          cases h
          obtain ⟨k', hmem, hfailure⟩ := ih hrest
          exact ⟨k', List.mem_cons_of_mem _ hmem, hfailure⟩
      · cases h

/-- Canonical signatures of all keys are what a pass over the keys gives. -/
theorem signAll_of_forall₂ {digest : Bytes} {keys : List KeyPair} {signatures : List Bytes}
    (h : List.Forall₂ (fun k b ↦ k.SignsCanonically digest b) keys signatures) :
    signAll digest keys = .ok (some signatures) := by
  induction h with
  | nil => rfl
  | cons hfirst _ ih =>
    unfold signAll
    simp only [hfirst.1, hfirst.2, if_true, ih, Except.map, Option.map_some]

/-! ## What an attempt finds -/

theorem attempt_of_forall₂ {t : Transaction} {chain digest : Bytes} {keys : List KeyPair}
    {signatures : List Bytes} (hdigest : t.digest chain = .ok digest)
    (h : List.Forall₂ (fun k b ↦ k.SignsCanonically digest b) keys signatures) :
    t.attempt chain keys = .ok (some signatures) := by
  unfold attempt
  simp only [hdigest, signAll_of_forall₂ h, bind, Except.bind]

/-- A first key without canonical signature rejects the attempt. -/
theorem attempt_of_rejected {t : Transaction} {chain digest b : Bytes} {k : KeyPair}
    {rest : List KeyPair} (hdigest : t.digest chain = .ok digest)
    (hsign : k.signCompact digest = .ok b) (hrejected : Compact.isCanonical b = false) :
    t.attempt chain (k :: rest) = .ok none := by
  have hall : signAll digest (k :: rest) = .ok none := by
    unfold signAll
    simp only [hsign, hrejected, Bool.false_eq_true, if_false]
  unfold attempt
  simp only [hdigest, hall, bind, Except.bind]

/-- Every key makes a canonical signature of the transaction with the expiration `e`. -/
def AllCanonical (t : Transaction) (chain : Bytes) (keys : List KeyPair) (e : TimePoint) : Prop :=
  ∃ digest, (t.expiring e).digest chain = .ok digest ∧
    ∀ k ∈ keys, ∃ b, k.SignsCanonically digest b

/-- Attempt number `i` of a search that starts with the expiration `start`. -/
def attemptFrom (t : Transaction) (chain : Bytes) (keys : List KeyPair) (start i : Nat) :
    Except Failure (Option (List Bytes)) :=
  (t.expiring ⟨start + i⟩).attempt chain keys

theorem SameBody.attemptFrom_eq {t u : Transaction} (h : SameBody t u) (chain : Bytes)
    (keys : List KeyPair) (start i : Nat) :
    u.attemptFrom chain keys start i = t.attemptFrom chain keys start i := by
  unfold attemptFrom attempt
  rw [h.digest_expiring]

/-- One attempt later, the search starts one second later. -/
theorem attemptFrom_succ (t : Transaction) (chain : Bytes) (keys : List KeyPair) (start i : Nat) :
    t.attemptFrom chain keys (start + 1) i = t.attemptFrom chain keys start (i + 1) := by
  unfold attemptFrom
  rw [show start + 1 + i = start + (i + 1) by omega]

variable {t : Transaction} {chain : Bytes} {keys : List KeyPair} {start i : Nat}

theorem allCanonical_of_attemptFrom {signatures : List Bytes}
    (h : t.attemptFrom chain keys start i = .ok (some signatures)) :
    t.AllCanonical chain keys ⟨start + i⟩ := by
  obtain ⟨digest, hdigest, hkeys⟩ := exists_of_bind_eq_ok h
  refine ⟨digest, hdigest, ?_⟩
  intro k hk
  obtain ⟨n, hn, rfl⟩ := List.mem_iff_getElem.mp hk
  have hforall := forall₂_of_signAll hkeys
  have hn' : n < signatures.length := by rwa [← hforall.length_eq]
  exact ⟨signatures[n], hforall.get hn hn'⟩

theorem not_allCanonical_of_attemptFrom (h : t.attemptFrom chain keys start i = .ok none) :
    ¬ t.AllCanonical chain keys ⟨start + i⟩ := by
  rintro ⟨digest, hdigest, hall⟩
  obtain ⟨digest', hdigest', hkeys⟩ := exists_of_bind_eq_ok h
  rw [hdigest] at hdigest'
  cases hdigest'
  obtain ⟨k, hk, b, hsign, hrejected⟩ := rejected_of_signAll hkeys
  obtain ⟨b', hsign', hcanonical⟩ := hall k hk
  rw [hsign] at hsign'
  cases hsign'
  rw [hrejected] at hcanonical
  cases hcanonical

/-- How an attempt fails. -/
theorem error_of_attemptFrom {failure : Failure}
    (h : t.attemptFrom chain keys start i = .error failure) :
    (t.expiring ⟨start + i⟩).digest chain = .error failure ∨
      ∃ digest, (t.expiring ⟨start + i⟩).digest chain = .ok digest ∧
        (failure = KeyPair.noNonce ∨ failure = KeyPair.noCandidate digest ∨
          ∃ cause, failure = .foreign cause) := by
  rcases of_bind_eq_error h with hdigest | ⟨digest, hdigest, hkeys⟩
  · exact .inl hdigest
  · have hlength : digest.length = 32 := by
      obtain ⟨bytes, _, hbytes⟩ := exists_of_bind_eq_ok hdigest
      cases hbytes
      exact length_sha256 bytes
    obtain ⟨k, _, hsign⟩ := error_of_signAll hkeys
    exact .inr ⟨digest, hdigest, KeyPair.error_of_signCompact hlength hsign⟩

/-- An attempt says that the attempts are exhausted only if there is no digest, in the words of an
operation. -/
theorem raises_of_exhausted {attempts : Nat}
    (h : t.attemptFrom chain keys start i = .error (exhausted attempts)) :
    Raises t.operations (exhausted attempts) ∧
      (t.expiring ⟨start + i⟩).digest chain = .error (exhausted attempts) := by
  rcases error_of_attemptFrom h with hdigest | ⟨digest, _, hkey⟩
  · rcases isRefusal_of_digest hdigest with hrefusal | hown
    · cases hrefusal
    · exact ⟨hown, hdigest⟩
  · have hname : ¬ lit "attempts" = lit "digest" := by decide
    rcases hkey with hnonce | hcandidate | ⟨cause, hforeign⟩
    · simp [exhausted, KeyPair.noNonce, Failure.ofReport, Fault.ofReport, Report.ofKind] at hnonce
    · simp [exhausted, KeyPair.noCandidate, Failure.ofReport, Fault.ofReport, Report.ofKind,
        hname] at hcandidate
    · cases hforeign

/-- After an attempt that had a digest, only the expiration can be refused. -/
theorem expirationMisfit_of_attemptFrom {e : TimePoint} {d : Bytes} {fault : Fault}
    (hdigest : (t.expiring e).digest chain = .ok d)
    (h : t.attemptFrom chain keys start i = .error (.own fault))
    (hkind : fault.report.kind = .encoding) :
    byteRange 4 ≤ start + i ∧ .own fault = expirationMisfit ⟨start + i⟩ := by
  rcases error_of_attemptFrom h with hlost | ⟨digest, _, hkey⟩
  · exact digest_expiring_error hdigest hlost
  · rcases hkey with hnonce | hcandidate | ⟨cause, hforeign⟩
    · cases hnonce
      cases hkind
    · cases hcandidate
      cases hkind
    · cases hforeign

end Transaction

end GrapheneSigner
