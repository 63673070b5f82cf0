import GrapheneSigner.Proofs.Signing.OwnFaults
import GrapheneSigner.Proofs.Signing.Preconditions

/-!
# What the checked wire form promises

A transaction can be written on condition that all keys that have to sign it are there.  The bytes
are then the ones that are written without this condition, and signing cannot fail any more because
a key is missing or a declaration is malformed.  The preconditions of signing are not part of the
condition, however: a transaction without operations, or one that does not refer to a block, is
written as well.
-/

namespace GrapheneSigner

/-! ## Failures that bar a transaction from being signed -/

namespace Failure

/-- The transaction violates a precondition, or one of its keys is missing, or one of its
declarations is malformed.  An expiration that is too late is no precondition. -/
def BarsSigning (failure : Failure) : Prop :=
  (∃ t : Transaction, t.checkPreconditions = .error failure) ∨
  ∃ fault, failure = .own fault ∧
    (fault.report.kind.isMissingKey = true ∨ fault.report.kind = .contract)

end Failure

namespace Transaction

variable {t : Transaction} {failure : Failure}

/-- Preconditions are refused without details. -/
theorem exists_refused_of_checkPreconditions (h : t.checkPreconditions = .error failure) :
    ∃ message, failure = refused message [] := by
  unfold checkPreconditions at h
  split at h
  · cases h
    exact ⟨_, rfl⟩
  split at h
  · cases h
    exact ⟨_, rfl⟩
  split at h
  · cases h
    exact ⟨_, rfl⟩
  · cases h

theorem exists_checkPreconditions_error_iff :
    (∃ failure, t.checkPreconditions = .error failure) ↔
      t.operations = [] ∨ t.refBlockNum.isZero = true ∨ t.refBlockPrefix.isZero = true := by
  cases hready : t.checkPreconditions with
  | error failure =>
    refine iff_of_true ⟨failure, rfl⟩ ?_
    by_contra hnone
    simp only [not_or, Bool.not_eq_true] at hnone
    rw [checkPreconditions_eq_ok_iff.mpr hnone] at hready
    cases hready
  | ok =>
    obtain ⟨hoperations, hnumber, hblock⟩ := checkPreconditions_eq_ok_iff.mp hready
    refine iff_of_false ?_ ?_
    · rintro ⟨failure, h⟩
      cases h
    · simp [hoperations, hnumber, hblock]

end Transaction

namespace Failure

variable {failure : Failure}

theorem BarsSigning.exists_fault (h : failure.BarsSigning) :
    ∃ fault, failure = .own fault ∧
      ((fault.report.kind = .transaction ∧ fault.report.details = []) ∨
        fault.report.kind.isMissingKey = true ∨ fault.report.kind = .contract) := by
  rcases h with ⟨t, ht⟩ | ⟨fault, hfault, hkind⟩
  · obtain ⟨message, rfl⟩ := Transaction.exists_refused_of_checkPreconditions ht
    exact ⟨_, rfl, .inl ⟨rfl, rfl⟩⟩
  · exact ⟨fault, hfault, .inr hkind⟩

theorem not_barsSigning_foreign (cause : Foreign) : ¬ (foreign cause).BarsSigning := by
  intro h
  obtain ⟨_, hfault, _⟩ := h.exists_fault
  cases hfault

theorem not_barsSigning_of_kind {fault : Fault}
    (h : fault.report.kind = .encoding ∨ fault.report.kind = .signing) :
    ¬ (own fault).BarsSigning := by
  intro hbars
  obtain ⟨_, hfault, hkind⟩ := hbars.exists_fault
  cases hfault
  rcases h with h | h
  · rw [h] at hkind
    rcases hkind with ⟨hkind, _⟩ | hkind | hkind <;> cases hkind
  · rw [h] at hkind
    rcases hkind with ⟨hkind, _⟩ | hkind | hkind <;> cases hkind

theorem IsRefusal.not_barsSigning (h : failure.IsRefusal) : ¬ failure.BarsSigning := by
  cases failure with
  | own fault => exact not_barsSigning_of_kind (.inl h)
  | foreign cause => exact not_barsSigning_foreign cause

end Failure

namespace Transaction

variable {t : Transaction} {failure : Failure}

theorem not_barsSigning_late (stamp : Text) (entry : Text × Value) (more : List (Text × Value)) :
    ¬ (refused (lateMessage stamp) (entry :: more)).BarsSigning := by
  intro h
  obtain ⟨fault, hfault, hkind⟩ := h.exists_fault
  cases hfault
  rcases hkind with ⟨_, hdetails⟩ | hkind | hkind
  · cases hdetails
  · cases hkind
  · cases hkind

theorem not_barsSigning_exhausted (attempts : Nat) : ¬ (exhausted attempts).BarsSigning :=
  Failure.not_barsSigning_of_kind (.inr rfl)

theorem isRefusal_of_chainOf {config : Config} {chainId : Value}
    (h : chainOf config chainId = .error failure) : failure.IsRefusal := by
  unfold chainOf at h
  split at h
  · exact ChainId.isRefusal_of_bytesOf h
  · exact ChainId.isRefusal_of_bytesOf h

/-! ## Assignments to the expiration -/

/-- How an assignment may turn out: what the operations raise behind it was raised before, or the
assignment fails with a foreign failure. -/
inductive Tame (t : Transaction) : Except Failure Transaction → Prop
  | ok {u : Transaction}
      (h : ∀ failure, Raises u.operations failure → Raises t.operations failure) : Tame t (.ok u)
  | foreign (cause : Foreign) : Tame t (.error (.foreign cause))

theorem tame_of_operations_eq {u : Transaction} (h : u.operations = t.operations) :
    Tame t (.ok u) :=
  .ok fun _ hraises ↦ h ▸ hraises

theorem not_raises_bare (members : List Value) (failure : Failure) :
    ¬ Raises (members.map .bare) failure := by
  rintro ⟨o, frame, hmem, _⟩
  obtain ⟨v, _, hv⟩ := List.mem_map.mp hmem
  cases hv

/-- The operations that an unchecked replacement brings are bare values. -/
theorem tame_force (t : Transaction) (name : Text) (v : Value) : Tame t (t.force name v) := by
  unfold force
  split
  · exact tame_of_operations_eq rfl
  split
  · exact tame_of_operations_eq rfl
  split
  · split
    · exact tame_of_operations_eq rfl
    · exact .foreign _
  split
  · split
    · exact .ok fun failure hraises ↦ absurd hraises (not_raises_bare _ failure)
    · exact .foreign _
  split
  · split
    · exact tame_of_operations_eq rfl
    · exact .foreign _
  · exact tame_of_operations_eq rfl

theorem Tame.bind {r : Except Failure Transaction} {f : Transaction → Except Failure Transaction}
    (h : Tame t r) (hf : ∀ u, Tame u (f u)) : Tame t (r.bind f) := by
  cases h with
  | foreign cause => exact .foreign cause
  | @ok u hu =>
    have hu' := hf u
    change Tame t (f u)
    generalize f u = r at hu' ⊢
    cases hu' with
    | foreign cause => exact .foreign cause
    | ok hv => exact .ok fun failure hraises ↦ hu failure (hv failure hraises)

theorem tame_foldlM_force (members : List (Text × Value)) (t : Transaction) :
    Tame t (members.foldlM (fun t e ↦ t.force e.1 e.2) t) := by
  induction members generalizing t with
  | nil => exact tame_of_operations_eq rfl
  | cons e rest ih =>
    rw [List.foldlM_cons]
    exact (tame_force t e.1 e.2).bind ih

/-- The members that wait beyond the fields are moved to their places. -/
theorem tame_settled (name : Text) (t : Transaction) : Tame t (settled name t) := by
  have hdrained : Tame t (.ok { t with frame := t.frame.drained }) := tame_of_operations_eq rfl
  exact hdrained.bind (tame_foldlM_force (t.frame.moved name))

theorem tame_checking {u : Transaction} (f : Frame) (h : u.operations = t.operations) :
    Tame t (f.checking (.ok u)) := by
  unfold Frame.checking
  split
  · exact .foreign _
  split
  · exact .foreign _
  · change Tame t (if f.tally then .ok u else .error (.foreign (.wrongKind [])))
    split
    · exact tame_of_operations_eq h
    · exact .foreign _

/-- Whatever waits beyond the fields, an assignment to the expiration brings no operation that
raises a failure. -/
theorem tame_expireAt (t : Transaction) (e : TimePoint) : Tame t (t.expireAt e) := by
  rw [expireAt_eq]
  split
  · exact .foreign _
  split
  · exact .foreign _
  · have hread : Tame t (t.frame.checking (.ok (t.expiring e))) := tame_checking t.frame rfl
    exact hread.bind (tame_settled _)

/-! ## Why a pass fails -/

theorem foreign_of_time {config : Config} (h : config.time = .error failure) :
    ∃ cause, failure = .foreign cause := by
  rcases of_bind_eq_error h with hread | ⟨reading, _, hreading⟩
  · cases hnow : config.now with
    | error cause =>
      rw [hnow] at hread
      cases hread
      exact ⟨cause, rfl⟩
    | ok reading =>
      rw [hnow] at hread
      cases hread
  · exact Reading.foreign_of_run hreading

theorem foreign_of_latest {config : Config} (h : latest config = .error failure) :
    ∃ cause, failure = .foreign cause := by
  rcases of_bind_eq_error h with hnow | ⟨now, _, h⟩
  · exact foreign_of_time hnow
  · split at h
    · exact Reading.foreign_of_run h
    · cases h
      exact ⟨_, rfl⟩

/-- Preparing the expiration fails with a foreign failure, or it refuses an expiration that is too
late. -/
theorem foreign_or_late_of_prepareExpiration {config : Config}
    (h : (t.prepareExpiration config).result = .error failure) :
    (∃ cause, failure = .foreign cause) ∨
      ∃ stamp entry more, failure = refused (lateMessage stamp) (entry :: more) := by
  cases hlatest : latest config with
  | error failure' =>
    unfold prepareExpiration at h
    simp only [hlatest, Except.error.injEq] at h
    subst h
    exact .inl (foreign_of_latest hlatest)
  | ok l =>
    cases hset : t.expiration.isSet with
    | false =>
      unfold prepareExpiration at h
      simp only [hlatest, hset, Bool.not_false, if_true] at h
      cases he : l.addSeconds (-Config.safetyMargin) with
      | error failure' =>
        simp only [he, Except.error.injEq] at h
        subst h
        exact .inl (Reading.foreign_of_run he)
      | ok e =>
        have htame := tame_expireAt t e
        simp only [he] at h
        generalize t.expireAt e = r at h htame
        cases htame with
        | foreign cause =>
          cases h
          exact .inl ⟨cause, rfl⟩
        | ok _ =>
          dsimp only at h
          cases hstamp : e.stamp with
          | ok text =>
            rw [hstamp] at h
            cases h
          | error failure' =>
            rw [hstamp] at h
            cases h
            exact .inl (TimePoint.stamp_error hstamp)
    | true =>
      rcases Nat.lt_or_ge l.seconds t.expiration.seconds with hlate | hle
      · rw [prepareExpiration_of_late hlatest hlate] at h
        rcases of_bind_eq_error h with hstamp | ⟨stamp, _, h⟩
        · exact .inl (TimePoint.stamp_error hstamp)
        split at h
        · rcases of_bind_eq_error h with hstamp | ⟨last, _, h⟩
          · exact .inl (TimePoint.stamp_error hstamp)
          · cases h
            exact .inr ⟨_, _, _, rfl⟩
        · cases h
      · rw [prepareExpiration_of_le hlatest hset hle] at h
        cases h

theorem not_barsSigning_of_prepareExpiration {config : Config}
    (h : (t.prepareExpiration config).result = .error failure) : ¬ failure.BarsSigning := by
  rcases foreign_or_late_of_prepareExpiration h with ⟨cause, rfl⟩ | ⟨stamp, entry, more, rfl⟩
  · exact Failure.not_barsSigning_foreign cause
  · exact not_barsSigning_late stamp entry more

/-- Preparing the expiration brings no operation that raises a failure. -/
theorem raises_of_prepareExpiration {config : Config}
    (h : Raises (t.prepareExpiration config).left.operations failure) :
    Raises t.operations failure := by
  rcases prepareExpiration_left t config with hleft | ⟨e, _, hassign, _⟩
  · rwa [hleft] at h
  · have htame := tame_expireAt t e
    rw [hassign] at htame
    cases htame with
    | ok hkeeps => exact hkeeps failure h

/-- A failure of the search that bars signing is raised by an operation. -/
theorem raises_of_search {chain : Bytes} {keys : List KeyPair} {attempts remaining : Nat}
    (h : (search chain keys attempts t remaining).2 = .error failure)
    (hbars : failure.BarsSigning) : Raises t.operations failure := by
  -- the transaction changes from attempt to attempt, and what it raises goes back to the first one
  induction remaining generalizing t with
  | zero =>
    cases h
    exact absurd hbars (not_barsSigning_exhausted attempts)
  | succ remaining ih =>
    unfold search at h
    cases hattempt : t.attempt chain keys with
    | error failure' =>
      simp only [hattempt, Except.error.injEq] at h
      subst h
      rcases isRefusal_of_digest (digest_of_attempt_error hattempt) with hrefusal | hraises
      · exact absurd hbars hrefusal.not_barsSigning
      · exact hraises
    | ok found =>
      cases found with
      | some signatures =>
        rw [hattempt] at h
        cases h
      | none =>
        rw [TimePoint.addSeconds_one] at h
        simp only [hattempt] at h
        have htame := tame_expireAt t ⟨t.expiration.seconds + 1⟩
        generalize t.expireAt ⟨t.expiration.seconds + 1⟩ = r at h htame
        cases htame with
        | foreign cause =>
          cases h
          exact absurd hbars (Failure.not_barsSigning_foreign cause)
        | ok hkeeps =>
          cases hstamp : TimePoint.stamp ⟨t.expiration.seconds + 1⟩ with
          | error failure' =>
            rw [hstamp] at h
            cases h
            obtain ⟨cause, rfl⟩ := TimePoint.stamp_error hstamp
            exact absurd hbars (Failure.not_barsSigning_foreign cause)
          | ok stamp =>
            rw [hstamp] at h
            exact hkeeps failure (ih h)

/-- A pass fails with a failure that bars signing only if a precondition is violated, the keys are
not found, or an operation raises the failure when it is written. -/
theorem PassOutcome.of_barsSigning {σ : Type} {lookup : Lookup σ} {config : Config}
    {chainId : Value} {s : σ} {left : Transaction}
    (h : PassOutcome t lookup config chainId s left (.error failure))
    (hbars : failure.BarsSigning) :
    t.checkPreconditions = .error failure ∨
      (Resolver.resolve lookup t.operations s).1 = .error failure ∨
      Raises t.operations failure := by
  generalize hresult : (Except.error failure : Except Failure (List Bytes)) = result at h
  cases h with
  | refused h =>
    cases hresult
    rcases h with hready | hkeys | hchain
    · exact .inl hready
    · exact .inr (.inl hkeys)
    · exact absurd hbars (isRefusal_of_chainOf hchain).not_barsSigning
  | unprepared _ _ _ hprepared =>
    cases hresult
    exact absurd hbars (not_barsSigning_of_prepareExpiration hprepared)
  | searched _ _ _ _ =>
    exact .inr (.inr (raises_of_prepareExpiration (raises_of_search hresult.symm hbars)))

/-! ## What is written -/

/-- What a transaction raises keeps it from being written. -/
theorem not_raises_of_serialize {chainId : Value} {b : Bytes} (h : t.serialize chainId = .ok b) :
    ¬ Raises t.operations failure := by
  rintro ⟨o, frame, hmem, hfailure⟩
  obtain ⟨chain, _, h⟩ := exists_of_bind_eq_ok h
  obtain ⟨header, _, h⟩ := exists_of_bind_eq_ok h
  obtain ⟨operations, hoperations, _⟩ := exists_of_bind_eq_ok h
  exact Writing.not_mem_of_encode (encode_of_encodeOperations hoperations)
    (List.mem_flatMap.mpr ⟨_, hmem, hfailure⟩)

end Transaction

namespace SignedTransaction

open Transaction

variable {σ : Type} {t : SignedTransaction} {lookup : Lookup σ} {chainId : Value} {s : σ}

/-- The checked wire form is the wire form, if the keys are there. -/
theorem serializeChecked_eq_ok_iff {b : Bytes} :
    (t.serializeChecked lookup chainId s).1 = .ok b ↔
      (∃ keys, (Resolver.resolve lookup t.operations s).1 = .ok keys) ∧
        t.toTransaction.serialize chainId = .ok b := by
  unfold serializeChecked requiredKeys
  rcases Resolver.resolve lookup t.operations s with ⟨found, s'⟩
  cases found with
  | error failure => exact ⟨nofun, nofun⟩
  | ok keys => exact ⟨fun h ↦ ⟨⟨keys, rfl⟩, h⟩, And.right⟩

/-- A precondition that is violated fails signing. -/
theorem sign_of_checkPreconditions_error {config : Config} {failure : Failure}
    (h : t.checkPreconditions = .error failure) :
    (t.sign lookup config chainId s).1.result = .error failure := by
  apply And.left
  apply sign_of_signPass_error
  unfold signPass
  rw [h]

/-- Once the keys are there and the transaction can be written, only a violated precondition bars it
from being signed. -/
theorem checkPreconditions_of_barsSigning {config : Config} {keys : List KeyPair} {b : Bytes}
    {failure : Failure} (hkeys : (Resolver.resolve lookup t.operations s).1 = .ok keys)
    (hserialize : t.toTransaction.serialize chainId = .ok b)
    (hfailure : (t.sign lookup config chainId s).1.result = .error failure)
    (hbars : failure.BarsSigning) : t.checkPreconditions = .error failure := by
  rcases (sign_of_error hfailure).2 with hpass | ⟨rfl, _⟩
  · have houtcome := passOutcome_signPass t.toTransaction lookup config chainId s
    rw [hpass] at houtcome
    rcases houtcome.of_barsSigning hbars with hready | hmissing | hraises
    · exact hready
    · rw [hkeys] at hmissing
      cases hmissing
    · exact absurd hraises (not_raises_of_serialize hserialize)
  · exact absurd hbars (Failure.not_barsSigning_foreign _)

/-- What bytes from the checked wire form promise.

They are the bytes of the wire form.  Of the failures that bar signing, only a violated precondition
is left: signing fails with one exactly if the transaction has no operations, or does not refer to a
block. -/
theorem bars_iff_of_serializeChecked (t : SignedTransaction) (store : KeyStore) (chainId : Value)
    {b : Bytes} (h : (t.serializeChecked KeyStore.lookup chainId store).1 = .ok b) :
    t.toTransaction.serialize chainId = .ok b ∧
      ∀ config : Config,
        let result := (t.sign KeyStore.lookup config chainId store).1.result
        (∀ failure, result = .error failure → failure.BarsSigning →
          t.checkPreconditions = .error failure) ∧
        ((∃ failure, result = .error failure ∧ failure.BarsSigning) ↔
          t.operations = [] ∨ t.refBlockNum.isZero = true ∨ t.refBlockPrefix.isZero = true) := by
  obtain ⟨⟨keys, hkeys⟩, hserialize⟩ := serializeChecked_eq_ok_iff.mp h
  refine ⟨hserialize, fun config ↦ ?_⟩
  intro result
  refine ⟨fun failure ↦ checkPreconditions_of_barsSigning hkeys hserialize, ?_⟩
  rw [← exists_checkPreconditions_error_iff]
  constructor
  · rintro ⟨failure, hfailure, hbars⟩
    exact ⟨failure, checkPreconditions_of_barsSigning hkeys hserialize hfailure hbars⟩
  · rintro ⟨failure, hready⟩
    exact ⟨failure, sign_of_checkPreconditions_error hready, .inl ⟨_, hready⟩⟩

/-- The vote is written with a look at the wallet of the voter, and then nothing bars it from being
signed, whatever the settings are. -/
theorem bars_iff_of_serializeChecked_vote :
    ∃ b, (vote.serializeChecked KeyStore.lookup .null wallet).1 = .ok b ∧
      vote.toTransaction.serialize .null = .ok b ∧
      ∀ config failure, (vote.sign KeyStore.lookup config .null wallet).1.result = .error failure →
        ¬ failure.BarsSigning := by
  have hsome : (vote.serializeChecked KeyStore.lookup .null wallet).1.toOption.isSome = true := rfl
  obtain ⟨b, hb⟩ := Option.isSome_iff_exists.mp hsome
  have hchecked := eq_ok_of_toOption hb
  obtain ⟨hserialize, hsign⟩ := bars_iff_of_serializeChecked vote wallet .null hchecked
  refine ⟨b, hchecked, hserialize, fun config failure hfailure hbars ↦ ?_⟩
  rcases (hsign config).2.mp ⟨failure, hfailure, hbars⟩ with hoperations | hnumber | hblock
  · cases hoperations
  · revert hnumber
    decide
  · revert hblock
    decide

/-- A vote whose operation was taken away. -/
def strippedVote : SignedTransaction := { vote with operations := [] }

/-- The checked wire form of a transaction that violates a precondition is there, although the
transaction cannot be signed. -/
theorem exists_checked_bytes_of_unready :
    ∃ b failure, (strippedVote.serializeChecked KeyStore.lookup .null KeyStore.empty).1 = .ok b ∧
      (strippedVote.sign KeyStore.lookup network .null KeyStore.empty).1.result = .error failure ∧
      strippedVote.checkPreconditions = .error failure := by
  have hsome : (strippedVote.serializeChecked KeyStore.lookup .null
      KeyStore.empty).1.toOption.isSome = true := rfl
  obtain ⟨b, hb⟩ := Option.isSome_iff_exists.mp hsome
  exact ⟨b, _, eq_ok_of_toOption hb, sign_of_checkPreconditions_error rfl, rfl⟩

end SignedTransaction

end GrapheneSigner
