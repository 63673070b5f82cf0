import GrapheneSigner.Proofs.Calendar.Stamp
import GrapheneSigner.Proofs.Signing.WireEquality
import GrapheneSigner.Proofs.Transaction.Built
import GrapheneSigner.Proofs.Transaction.Faults

/-!
# What callers of signing have to expect

Signing a transaction that was built from checked operations, with keys from a store, either
succeeds or reports a fault of the library's own model, with two exceptions.  An expiration behind
the window is written into a message, whether it is refused or only warned about, and behind the
year 9999 it has no time stamp; then signing fails with the foreign failure of that time stamp.  And
the fault of a field that cannot be written shows an integer; if that has too many digits for a
text, signing fails with the foreign failure of showing it.
-/

namespace GrapheneSigner

/-! ## Keys -/

/-- A store that has no key says so by a fault of its own. -/
theorem KeyStore.exists_fault_of_resolve {store : KeyStore} {role : Role} {a : AccountName}
    {failure : Failure} (h : store.resolve role a = .error failure) :
    ∃ fault, failure = .own fault ∧ fault.report.kind = .missingKey := by
  unfold resolve at h
  split at h
  · cases h
    exact ⟨_, rfl, rfl⟩
  · split at h
    · cases h
    · cases h
      exact ⟨_, rfl, rfl⟩

namespace Resolver

theorem isOwn_explain {fault : Fault} (h : fault.report.kind.obstacle? = none) (title : Text)
    (role : Role) (a : AccountName) : (explain title role a (.own fault)).isOwn = true := by
  unfold explain
  dsimp only
  rw [h]
  split
  · rfl
  · rfl

/-- The keys of checked operations are in the store, or there is a fault. -/
theorem isOwn_of_resolve {store : KeyStore} {os : List Operation} {failure : Failure}
    (h : (resolve KeyStore.lookup (os.map Operation.toEntry) store).1 = .error failure) :
    failure.isOwn = true := by
  have hanswers := answers_keyStore store
  rcases exists_first_error store.resolve (places (os.map Operation.toEntry)) with
    hok | ⟨pre, p, post, failure', hsplit, hok, hp⟩
  · rw [hanswers.resolve_of_ok rfl hok] at h
    cases h
  · rw [hanswers.resolve_of_error rfl hsplit hok hp] at h
    cases h
    -- the places of checked operations are accounts
    have hmem : p ∈ places (os.map Operation.toEntry) := by
      rw [hsplit]
      exact List.mem_append_right _ List.mem_cons_self
    obtain ⟨e, he, hplace⟩ := List.mem_flatMap.mp hmem
    obtain ⟨o, _, rfl⟩ := List.mem_map.mp he
    rw [placesIn_toEntry] at hplace
    obtain ⟨l, _, rfl⟩ := List.mem_map.mp hplace
    cases hkey : store.resolve l.1 l.2 with
    | ok k =>
      rw [Place.key, hkey] at hp
      cases hp
    | error cause =>
      rw [key_account_of_error hkey] at hp
      cases hp
      obtain ⟨fault, rfl, hkind⟩ := KeyStore.exists_fault_of_resolve hkey
      exact isOwn_explain (by rw [hkind]; rfl) _ _ _

end Resolver

/-! ## Faults that cannot be shown -/

namespace Contents

/-- The first fault in layout order would show an integer that has too many digits. -/
def IsMute (c : Contents) : Prop := ∃ b, c.wireFaults.head? = some b ∧ b.isMute = true

def expiring (c : Contents) (e : TimePoint) : Contents := { c with expiration := e }

theorem IsSized.expiring {c : Contents} (h : c.IsSized) (e : TimePoint) :
    (c.expiring e).IsSized := ⟨h.operations, h.accounts, h.extensions⟩

variable {c : Contents}

theorem IsMute.wireFaults_ne_nil (h : c.IsMute) : c.wireFaults ≠ [] := by
  obtain ⟨b, hb, _⟩ := h
  intro hnil
  rw [hnil] at hb
  cases hb

/-- An expiration that has no four bytes is to blame, unless the block number is. -/
theorem headerFaults_ne_nil_of_late (hlarge : 2 ^ 32 ≤ c.expiration.seconds) :
    c.headerFaults ≠ [] := by
  unfold headerFaults
  rw [ne_eq, List.append_eq_nil_iff, blameUnless_eq_nil_iff, blameUnless_eq_nil_iff]
  omega

/-- The fault of a header can be shown if the integers of the header can. -/
theorem not_isMute_of_late (hlarge : 2 ^ 32 ≤ c.expiration.seconds)
    (hnum : Numeral.isWritable c.refBlockNum = true)
    (hexpiration : Numeral.isWritable c.expiration.seconds = true) : ¬ c.IsMute := by
  rintro ⟨b, hb, hmute⟩
  have hmem : b ∈ c.headerFaults := by
    obtain ⟨first, rest, hcons⟩ := List.exists_cons_of_ne_nil (headerFaults_ne_nil_of_late hlarge)
    rw [wireFaults, hcons, List.cons_append, List.head?_cons, Option.some.injEq] at hb
    rw [hcons, hb]
    exact List.mem_cons_self
  rcases List.mem_append.mp hmem with h | h
  · rw [eq_of_mem_blameUnless h, Blame.isMute, Option.any_some, hnum] at hmute
    cases hmute
  · rw [eq_of_mem_blameUnless h, Blame.isMute, Option.any_some, hexpiration] at hmute
    cases hmute

end Contents

/-! ## Preconditions -/

namespace Transaction

theorem isOwn_of_chainOf {config : Config} {chainId : Value} (hform : ChainId.IsForm chainId)
    {failure : Failure} (h : chainOf config chainId = .error failure) : failure.isOwn = true := by
  cases chainId with
  | null => exact ChainId.isOwn_of_bytesOf (v := .chars config.chainId) trivial h
  | _ => exact ChainId.isOwn_of_bytesOf hform h

theorem isOwn_of_checkPreconditions {t : Transaction} {failure : Failure}
    (h : t.checkPreconditions = .error failure) : failure.isOwn = true := by
  unfold checkPreconditions at h
  split at h
  · cases h
    rfl
  split at h
  · cases h
    rfl
  split at h
  · cases h
    rfl
  · cases h

/-! ## The window -/

/-- The end of a window within 32 bits has a time stamp, like all time points before it. -/
theorem exists_stamp_of_le {t : TimePoint} (h : t.seconds ≤ 2 ^ 32) :
    ∃ text, t.stamp = .ok text := by
  apply TimePoint.exists_stamp_iff.mpr
  unfold TimePoint.lastStamped
  omega

/-- Why the preparation of the expiration fails: an expiration behind the window has no time stamp,
or strict settings refuse it. -/
theorem late_of_prepareExpiration {t : Transaction} {config : Config} {last : Nat}
    (hframe : t.frame = {}) (hlatest : latest config = .ok ⟨last⟩) (hbound : last < 2 ^ 32)
    {failure : Failure} (h : (t.prepareExpiration config).result = .error failure) :
    last < t.expiration.seconds ∧ (t.prepareExpiration config).left = t ∧
      (t.expiration.stamp = .error failure ∨
        ∃ fault, failure = .own fault ∧ fault.report.kind = .transaction) := by
  obtain ⟨now, _, hlast⟩ := seconds_of_latest hlatest
  have hoffset := config.offset_gt
  cases hset : t.expiration.isSet with
  | false =>
    have hstart : (TimePoint.mk last).addSeconds (-Config.safetyMargin) = .ok ⟨last - 60⟩ := by
      refine TimePoint.addSeconds_eq_ok_iff.mpr ?_
      unfold Config.safetyMargin
      dsimp only at hlast ⊢
      omega
    obtain ⟨text, htext⟩ := exists_stamp_of_le (t := ⟨last - 60⟩) (by dsimp only; omega)
    rw [prepareExpiration_of_intact hlatest hframe hset hstart, htext] at h
    cases h
  | true =>
    rcases Nat.lt_or_ge last t.expiration.seconds with hlate | hle
    · refine ⟨hlate, prepareExpiration_of_isSet config hset, ?_⟩
      obtain ⟨text, htext⟩ := exists_stamp_of_le (t := ⟨last⟩) (Nat.le_of_lt hbound)
      rw [prepareExpiration_of_late hlatest hlate] at h
      rcases of_bind_eq_error h with hstamp | ⟨stamp, _, h⟩
      · exact .inl hstamp
      · split at h
        · rw [htext] at h
          cases h
          exact .inr ⟨_, rfl, rfl⟩
        · cases h
    · rw [prepareExpiration_of_le hlatest hset hle] at h
      cases h

/-! ## The search -/

/-- Keys sign every digest, so that an attempt fails only if there is none. -/
theorem digest_of_attempt_error {t : Transaction} {chain : Bytes} {keys : List KeyPair}
    {failure : Failure} (h : t.attempt chain keys = .error failure) :
    t.digest chain = .error failure := by
  rcases of_bind_eq_error h with hdigest | ⟨digest, hdigest, hkeys⟩
  · exact hdigest
  · obtain ⟨bytes, _, hbytes⟩ := exists_of_bind_eq_ok hdigest
    cases hbytes
    obtain ⟨k, _, hsign⟩ := error_of_signAll hkeys
    obtain ⟨b, hb⟩ := k.exists_signCompact (length_sha256 bytes)
    rw [hsign] at hb
    cases hb

theorem isOwn_expirationMisfit {e : TimePoint} (h : e.seconds ≤ 2 ^ 32) :
    (expirationMisfit e).isOwn = true := by
  have hwritable : Numeral.isWritable e.seconds = true := Numeral.isWritable_of_lt (by omega)
  rw [expirationMisfit, Call.misfit, Value.shown_int, Numeral.shown_eq, if_pos hwritable]
  rfl

section Run

variable {c : Contents} {chain : Bytes} {keys : List KeyPair} {attempts start bound n : Nat}
  {left : Transaction}

/-- An attempt on checked contents fails for the first fault in layout order. -/
theorem exists_of_attemptFrom_error (hsized : c.IsSized) {failure : Failure}
    (h : c.toTransaction.attemptFrom chain keys start n = .error failure) :
    ∃ b, (c.expiring ⟨start + n⟩).wireFaults.head? = some b ∧ b.Reports failure :=
  (Contents.blames_digest (hsized.expiring _) chain).exists_of_error (digest_of_attempt_error h)

/-- A run on checked contents fails with a fault, unless the fault of its first attempt cannot be
shown. -/
theorem Run.isOwn_or_isMute (hsized : c.IsSized) {failure : Failure}
    (h : Run c.toTransaction chain keys attempts start bound n left (.error failure)) :
    failure.isOwn = true ∨ (failure = .foreign .overlong ∧ (c.expiring ⟨start⟩).IsMute) := by
  have hrange : byteRange 4 = 2 ^ 32 := rfl
  -- an attempt before had a digest, and so its expiration was within 32 bits
  have hbefore (hpos : 0 < n) : ∃ digest,
      (c.toTransaction.expiring ⟨start + (n - 1)⟩).digest chain = .ok digest ∧
        start + n ≤ 2 ^ 32 := by
    obtain ⟨digest, hdigest, _⟩ := exists_of_bind_eq_ok (h.rejected (n - 1) (by omega))
    have hlt : start + (n - 1) < byteRange 4 := lt_of_digest_expiring hdigest
    exact ⟨digest, hdigest, by omega⟩
  cases h.ending with
  | failed _ hfailure =>
    rcases Nat.eq_zero_or_pos n with rfl | hpos
    · obtain ⟨b, hb, hreports⟩ := exists_of_attemptFrom_error hsized hfailure
      cases hmute : b.isMute with
      | true => exact .inr ⟨hreports.eq_overlong hmute, b, hb, hmute⟩
      | false =>
        obtain ⟨fault, rfl, _⟩ := hreports.exists_fault hmute
        exact .inl rfl
    · obtain ⟨digest, hdigest, hle⟩ := hbefore hpos
      obtain ⟨_, rfl⟩ := digest_expiring_error hdigest (digest_of_attempt_error hfailure)
      exact .inl (isOwn_expirationMisfit hle)
  | unstamped hpos _ hstamp =>
    obtain ⟨_, _, hle⟩ := hbefore hpos
    obtain ⟨text, htext⟩ := exists_stamp_of_le (t := ⟨start + n⟩) hle
    rw [hstamp] at htext
    cases htext
  | unassigned hadmits => cases hadmits
  | exhausted => exact .inl rfl

/-- If contents have a fault with the expiration from which a run starts, the run fails at once. -/
theorem Run.exists_of_wireFaults_ne_nil (hsized : c.IsSized) {result : Except Failure (List Bytes)}
    (h : Run c.toTransaction chain keys attempts start bound n left result) (hbound : 0 < bound)
    (hfaults : (c.expiring ⟨start⟩).wireFaults ≠ []) :
    ∃ failure b, result = .error failure ∧ (c.expiring ⟨start⟩).wireFaults.head? = some b ∧
      b.Reports failure := by
  have hnone : ∀ found, c.toTransaction.attemptFrom chain keys start 0 ≠ .ok found := by
    intro found hfound
    obtain ⟨digest, hdigest, _⟩ := exists_of_bind_eq_ok hfound
    obtain ⟨failure, hfailure⟩ :=
      (Contents.blames_digest (hsized.expiring ⟨start⟩) chain).exists_error_iff.mpr hfaults
    cases hfailure.symm.trans hdigest
  have hzero : n = 0 := by
    apply Nat.eq_zero_of_not_pos
    intro hpos
    exact hnone none (h.rejected 0 hpos)
  subst hzero
  cases h.ending with
  | signed _ hfound => exact absurd hfound (hnone _)
  | failed _ hfailure =>
    obtain ⟨b, hb, hreports⟩ := exists_of_attemptFrom_error hsized hfailure
    exact ⟨_, b, rfl, hb, hreports⟩
  | unstamped hpos _ _ => omega
  | unassigned hadmits => cases hadmits
  | exhausted => omega

end Run

/-! ## A whole pass -/

section Pass

variable {c : Contents} {store : KeyStore} {config : Config} {chainId : Value} {last : Nat}

/-- The expiration with which a search starts is to blame only if the expiration of the contents
is. -/
theorem wireFaults_of_startsAt {start : Nat} (hstarts : c.toTransaction.StartsAt config start)
    (hlatest : latest config = .ok ⟨last⟩) (hbound : last < 2 ^ 32) :
    (c.expiring ⟨start⟩).wireFaults = c.wireFaults := by
  have hexpiration : c.toTransaction.expiration = c.expiration := rfl
  cases hset : c.toTransaction.expiration.isSet with
  | true =>
    rw [hstarts.1 hset]
    rfl
  | false =>
    obtain ⟨now, hnow, _, hstart⟩ := hstarts.2 hset
    have hends := seconds_of_latest hlatest
    have hlast : last = now.seconds + config.maxExpirationOffset := by
      obtain ⟨now', hnow', hlast⟩ := hends
      cases hnow.symm.trans hnow'
      exact hlast
    have hzero : c.expiration.seconds = 0 := by
      rw [hexpiration, TimePoint.isSet, bne_eq_false_iff_eq] at hset
      exact hset
    have hfits : blameUnless ((c.expiring ⟨start⟩).expiration.seconds < 2 ^ 32)
        ⟨lit "expiration", some ((c.expiring ⟨start⟩).expiration.seconds : Int)⟩ = [] := by
      rw [blameUnless_eq_nil_iff]
      change start < 2 ^ 32
      omega
    have hfits' : blameUnless (c.expiration.seconds < 2 ^ 32)
        ⟨lit "expiration", some (c.expiration.seconds : Int)⟩ = [] := by
      rw [blameUnless_eq_nil_iff, hzero]
      decide
    unfold Contents.wireFaults Contents.headerFaults
    rw [hfits, hfits']
    rfl

/-- A pass on checked contents fails with a fault, or because an expiration behind the window has no
time stamp, or because the first fault of the contents cannot be shown.  Without time stamp, it
leaves everything as it was. -/
theorem PassOutcome.isOwn_or_unstamped_or_isMute (hsized : c.IsSized) {left : Transaction}
    {failure : Failure} (hform : ChainId.IsForm chainId) (hlatest : latest config = .ok ⟨last⟩)
    (hbound : last < 2 ^ 32)
    (h : PassOutcome c.toTransaction KeyStore.lookup config chainId store left (.error failure)) :
    failure.isOwn = true ∨
      (last < c.expiration.seconds ∧ c.expiration.stamp = .error failure ∧
        left = c.toTransaction) ∨
      (failure = .foreign .overlong ∧ c.IsMute) := by
  generalize hresult : (Except.error failure : Except Failure (List Bytes)) = result at h
  cases h with
  | refused h =>
    cases hresult
    rcases h with hready | hkeys | hchain
    · exact .inl (isOwn_of_checkPreconditions hready)
    · exact .inl (Resolver.isOwn_of_resolve hkeys)
    · exact .inl (isOwn_of_chainOf hform hchain)
  | unprepared _ _ _ hprepared =>
    cases hresult
    obtain ⟨hlate, hleft, hstamp | ⟨fault, rfl, _⟩⟩ :=
      late_of_prepareExpiration rfl hlatest hbound hprepared
    · exact .inr (.inl ⟨hlate, hstamp, hleft⟩)
    · exact .inl rfl
  | @searched keys chain _ _ _ hprepared =>
    obtain ⟨start, _, hstarts, hrun⟩ := exists_run_of_prepared Frame.noSurplus_intact hprepared
      chain keys config.maxSigningAttempts
    rw [← hresult] at hrun
    rcases hrun.isOwn_or_isMute hsized with hown | ⟨hfailure, hmute⟩
    · exact .inl hown
    · rw [Contents.IsMute, wireFaults_of_startsAt hstarts hlatest hbound] at hmute
      exact .inr (.inr ⟨hfailure, hmute⟩)

variable {keys : List KeyPair} {chain : Bytes}
  (hready : c.toTransaction.checkPreconditions = .ok ())
  (hkeys : (Resolver.resolve KeyStore.lookup c.toTransaction.operations store).1 = .ok keys)
  (hchain : chainOf config chainId = .ok chain) (hlatest : latest config = .ok ⟨last⟩)

include hready hkeys hchain hlatest

/-- Behind the check of the window, contents with a fault fail the pass by what is reported of the
first one. -/
theorem exists_of_prepared_of_wireFaults_ne_nil (hsized : c.IsSized) (hbound : last < 2 ^ 32)
    (hprepared : (c.toTransaction.prepareExpiration config).result = .ok ())
    (hfaults : c.wireFaults ≠ []) :
    ∃ failure b, (c.toTransaction.signPass KeyStore.lookup config chainId store).1.result
        = .error failure ∧ c.wireFaults.head? = some b ∧ b.Reports failure := by
  obtain ⟨start, n, hstarts, hrun⟩ := exists_run_of_prepared Frame.noSurplus_intact hprepared chain
    keys config.maxSigningAttempts
  have hsame := wireFaults_of_startsAt hstarts hlatest hbound
  obtain ⟨failure, b, hfailure, hb, hreports⟩ :=
    hrun.exists_of_wireFaults_ne_nil hsized config.attempts_pos (by rwa [hsame])
  obtain ⟨_, hresult⟩ := signPass_of_prepared hready hkeys hchain hprepared
  exact ⟨failure, b, hresult.trans hfailure, by rwa [hsame] at hb, hreports⟩

/-- If the first fault cannot be shown, that is all that a caller is told. -/
theorem signPass_of_isMute (hsized : c.IsSized) (hbound : last < 2 ^ 32)
    (hprepared : (c.toTransaction.prepareExpiration config).result = .ok ()) (hmute : c.IsMute) :
    (c.toTransaction.signPass KeyStore.lookup config chainId store).1.result
      = .error (.foreign .overlong) := by
  obtain ⟨failure, b, hresult, hb, hreports⟩ := exists_of_prepared_of_wireFaults_ne_nil hready
    hkeys hchain hlatest hsized hbound hprepared hmute.wireFaults_ne_nil
  obtain ⟨b', hb', hmute⟩ := hmute
  rw [hb, Option.some.injEq] at hb'
  subst hb'
  rw [hresult, hreports.eq_overlong hmute]

variable (hlate : last < c.expiration.seconds)

include hlate

/-- Strict settings refuse an expiration behind the window that has a time stamp. -/
theorem exists_fault_of_strict (hbound : last < 2 ^ 32)
    (hstamped : c.expiration.seconds ≤ TimePoint.lastStamped)
    (hstrict : config.strictExpiration = true) :
    ∃ fault, (c.toTransaction.signPass KeyStore.lookup config chainId store).1.result
        = .error (.own fault) ∧
      fault.report.kind = .transaction ∧
      (c.toTransaction.signPass KeyStore.lookup config chainId store).1.left = c.toTransaction := by
  obtain ⟨stamp, hstamp⟩ := TimePoint.exists_stamp_iff.mpr hstamped
  obtain ⟨text, htext⟩ := exists_stamp_of_le (t := ⟨last⟩) (Nat.le_of_lt hbound)
  have hprepared := prepareExpiration_of_late (t := c.toTransaction) hlatest hlate
  have hexpiration : c.toTransaction.expiration = c.expiration := rfl
  rw [hexpiration, hstamp, Except.bind, if_pos hstrict, htext] at hprepared
  obtain ⟨_, hleft, _⟩ := late_of_prepareExpiration rfl hlatest hbound hprepared
  obtain ⟨hpass, hresult⟩ := signPass_of_unprepared hready hkeys hchain hprepared
  exact ⟨_, hresult, rfl, hpass.trans hleft⟩

/-- Other settings let it pass the window, but it may have no four bytes. -/
theorem exists_fault_of_lenient (hsized : c.IsSized) (hbound : last < 2 ^ 32)
    (hstamped : c.expiration.seconds ≤ TimePoint.lastStamped)
    (hlenient : config.strictExpiration = false) :
    (c.toTransaction.prepareExpiration config).result = .ok () ∧
      (2 ^ 32 ≤ c.expiration.seconds → Numeral.isWritable c.refBlockNum = true →
        ∃ fault, (c.toTransaction.signPass KeyStore.lookup config chainId store).1.result
            = .error (.own fault) ∧ fault.report.kind = .encoding) := by
  obtain ⟨stamp, hstamp⟩ := TimePoint.exists_stamp_iff.mpr hstamped
  have hprepared := prepareExpiration_of_late (t := c.toTransaction) hlatest hlate
  have hexpiration : c.toTransaction.expiration = c.expiration := rfl
  rw [hexpiration, hstamp, Except.bind, hlenient] at hprepared
  refine ⟨hprepared, ?_⟩
  intro hlarge hnum
  have hwritable : Numeral.isWritable c.expiration.seconds = true := by
    apply Numeral.isWritable_of_lt
    unfold TimePoint.lastStamped at hstamped
    omega
  have hfaults : c.wireFaults ≠ [] :=
    List.append_ne_nil_of_left_ne_nil (Contents.headerFaults_ne_nil_of_late hlarge) _
  obtain ⟨failure, b, hresult, hb, hreports⟩ := exists_of_prepared_of_wireFaults_ne_nil hready
    hkeys hchain hlatest hsized hbound hprepared hfaults
  have hshown : b.isMute = false := by
    rw [Bool.eq_false_iff]
    intro hmute
    exact Contents.not_isMute_of_late hlarge hnum hwritable ⟨b, hb, hmute⟩
  obtain ⟨fault, rfl, hkind, _⟩ := hreports.exists_fault hshown
  exact ⟨fault, hresult, hkind⟩

/-- An expiration behind the window that has no time stamp fails the pass, whatever the settings
are. -/
theorem exists_foreign_of_unstamped (hunstamped : TimePoint.lastStamped < c.expiration.seconds) :
    ∃ cause, (c.toTransaction.signPass KeyStore.lookup config chainId store).1.result
        = .error (.foreign cause) ∧
      (c.toTransaction.signPass KeyStore.lookup config chainId store).1.left = c.toTransaction := by
  have hprepared := prepareExpiration_of_late (t := c.toTransaction) hlatest hlate
  have hexpiration : c.toTransaction.expiration = c.expiration := rfl
  have hset : c.toTransaction.expiration.isSet = true := by
    rw [hexpiration, TimePoint.isSet, bne_iff_ne]
    omega
  obtain ⟨failure, hstamp⟩ := TimePoint.exists_stamp_error hunstamped
  obtain ⟨cause, rfl⟩ := TimePoint.stamp_error hstamp
  rw [hexpiration, hstamp, Except.bind] at hprepared
  obtain ⟨hpass, hresult⟩ := signPass_of_unprepared hready hkeys hchain hprepared
  exact ⟨cause, hresult, hpass.trans (prepareExpiration_of_isSet config hset)⟩

end Pass

end Transaction

namespace SignedTransaction

open Transaction

/-- What signing does if it fails.  The transaction was built from checked operations, the keys are
in a store, the clock is not before the epoch, the window ends within 32 bits, the chain id is a
text or bytes, or there is none, and lists have no more members than a count can say.

Signing fails with a fault of the library's own model, with two exceptions: the expiration is behind
the window and behind the year 9999, or the first fault of the wire form would show an integer that
has too many digits for a text.  On a pass that comes as far as the window, an expiration behind it
is refused by strict settings, and nothing changes.  Other settings let it pass the window, and an
expiration that has no four bytes is an encoding fault, if the block number in front of it can be
shown.  Both are so up to the year 9999; behind it, signing fails with a foreign failure.  A pass
that comes beyond the window fails with a foreign failure if the first fault cannot be shown. -/
theorem isOwn_or_foreign_of_sign_error {args : Arguments} {os : List Operation}
    {t : SignedTransaction} (hbuilt : ofArguments args (os.map Operation.toEntry) = .ok t)
    (hlength : os.length < 2 ^ 64) (haccounts : ∀ o ∈ os, o.IsSized)
    (hextensions : t.extensions.length < 2 ^ 64)
    (store : KeyStore) {config : Config} {r : ClockReading} {last : Nat}
    (hclock : config.now = .ok (.clock r)) (hnonneg : 0 ≤ r.seconds)
    (hlast : (last : Int) = r.seconds + config.maxExpirationOffset) (hbound : last < 2 ^ 32)
    (chainId : Value) (hform : ChainId.IsForm chainId) :
    ∃ c : Contents, t.toTransaction = c.toTransaction ∧ c.operations = os ∧
    let signing := (t.sign KeyStore.lookup config chainId store).1
    (∀ failure, signing.result = .error failure → failure.isOwn = true ∨
      (last < t.expiration.seconds ∧ TimePoint.lastStamped < t.expiration.seconds ∧
        t.expiration.stamp = .error failure ∧ signing.left = t) ∨
      (failure = .foreign .overlong ∧ c.IsMute)) ∧
    ∀ keys chain, t.checkPreconditions = .ok () →
      (Resolver.resolve KeyStore.lookup t.operations store).1 = .ok keys →
      chainOf config chainId = .ok chain →
      (last < t.expiration.seconds →
        (t.expiration.seconds ≤ TimePoint.lastStamped → config.strictExpiration = true →
          ∃ fault, signing.result = .error (.own fault) ∧ fault.report.kind = .transaction ∧
            signing.left = t) ∧
        (t.expiration.seconds ≤ TimePoint.lastStamped → config.strictExpiration = false →
          (t.toTransaction.prepareExpiration config).result = .ok () ∧
            (2 ^ 32 ≤ t.expiration.seconds → Numeral.isWritable c.refBlockNum = true →
              ∃ fault, signing.result = .error (.own fault) ∧ fault.report.kind = .encoding)) ∧
        (TimePoint.lastStamped < t.expiration.seconds →
          ∃ cause, signing.result = .error (.foreign cause) ∧ signing.left = t)) ∧
      ((t.toTransaction.prepareExpiration config).result = .ok () → c.IsMute →
        signing.result = .error (.foreign .overlong)) := by
  obtain ⟨c, hos, hc, hlist⟩ := exists_contents_of_ofArguments hbuilt
  have hlatest := latest_of_clock hclock hnonneg hlast hbound
  clear hbuilt
  obtain ⟨base, signatures, holder⟩ := t
  obtain rfl : base = c.toTransaction := hc
  have hsized : c.IsSized := by
    have hlength' : c.toTransaction.extensions.length = c.extensions.length := List.length_map _
    exact ⟨by rwa [hos], by rwa [hos], by rwa [← hlength']⟩
  refine ⟨c, rfl, hos, ?_⟩
  intro signing
  refine ⟨?_, ?_⟩
  · intro failure h
    have houtcome := passOutcome_signPass c.toTransaction KeyStore.lookup config chainId store
    rw [signPass_error_of_sign hlist h] at houtcome
    rcases houtcome.isOwn_or_unstamped_or_isMute hsized hform hlatest hbound with
      hown | ⟨hlate, hstamp, hsame⟩ | hmute
    · exact .inl hown
    · refine .inr (.inl ⟨hlate, TimePoint.lt_of_stamp_error hstamp, hstamp, ?_⟩)
      rw [(sign_of_error h).1, hsame]
      rfl
    · exact .inr (.inr hmute)
  intro keys chain hready hkeys hchain
  refine ⟨?_, ?_⟩
  · intro hlate
    refine ⟨?_, ?_, ?_⟩
    · intro hstamped hstrict
      obtain ⟨fault, hpass, hkind, hsame⟩ := exists_fault_of_strict hready hkeys hchain hlatest
        hlate hbound hstamped hstrict
      obtain ⟨hresult, hleft⟩ :=
        sign_of_signPass_error (t := ⟨c.toTransaction, signatures, holder⟩) hpass
      exact ⟨fault, hresult, hkind, by rw [hleft, hsame]; rfl⟩
    · intro hstamped hlenient
      obtain ⟨hprepared, hlarge⟩ := exists_fault_of_lenient hready hkeys hchain hlatest hlate
        hsized hbound hstamped hlenient
      refine ⟨hprepared, ?_⟩
      intro h hnum
      obtain ⟨fault, hpass, hkind⟩ := hlarge h hnum
      exact ⟨fault, (sign_of_signPass_error hpass).1, hkind⟩
    · intro hunstamped
      obtain ⟨cause, hpass, hsame⟩ := exists_foreign_of_unstamped hready hkeys hchain hlatest
        hlate hunstamped
      obtain ⟨hresult, hleft⟩ :=
        sign_of_signPass_error (t := ⟨c.toTransaction, signatures, holder⟩) hpass
      exact ⟨cause, hresult, by rw [hleft, hsame]; rfl⟩
  · intro hprepared hmute
    exact (sign_of_signPass_error
      (signPass_of_isMute hready hkeys hchain hlatest hsized hbound hprepared hmute)).1

/-! ### Votes that expire behind the window -/

section Vote

/-- The arguments of the vote, with another expiration. -/
def voteArguments (seconds : Int) : Arguments :=
  [(lit "ref_block_num", .int 34294), (lit "ref_block_prefix", .int 3707022213),
    (lit "expiration", .int seconds)]

/-- The vote with another expiration. -/
def expiringVote (seconds : Nat) : SignedTransaction := { vote with expiration := ⟨seconds⟩ }

/-- What the clock reads at the beginning of 2016. -/
def newYear : ClockReading := ⟨⟨2016, 1, 1⟩, 0, 0, 0, 0, some .zero⟩

/-- Settings with this clock. -/
def clockNetwork (strict : Bool) : Config :=
  { Config.default (.ok (.clock newYear)) with strictExpiration := strict }

theorem seconds_newYear : newYear.seconds = 1451606400 := by decide +kernel

theorem exists_ofArguments_expiringVote (seconds : Nat) :
    ∃ o : Operation, o.IsSized ∧ ofArguments (voteArguments seconds) ([o].map Operation.toEntry)
      = .ok (expiringVote seconds) :=
  ⟨.vote ⟨voter, ⟨lit "bob", by decide⟩, lit "post", 10000, by decide, by decide⟩, trivial, rfl⟩

theorem checkPreconditions_expiringVote (seconds : Nat) :
    (expiringVote seconds).checkPreconditions = .ok () := rfl

theorem chainOf_clockNetwork (strict : Bool) :
    chainOf (clockNetwork strict) .null = .ok zeroChain := rfl

/-- A vote whose expiration has no four bytes is refused by strict settings and an encoding fault
with others. -/
theorem isOwn_or_foreign_of_sign_error_vote :
    (∃ o : Operation, o.IsSized ∧
        ofArguments (voteArguments 4294967296) ([o].map Operation.toEntry)
          = .ok (expiringVote 4294967296)) ∧
      0 ≤ newYear.seconds ∧
      (∃ fault, ((expiringVote 4294967296).sign KeyStore.lookup (clockNetwork true) .null
          wallet).1.result = .error (.own fault) ∧ fault.report.kind = .transaction) ∧
      ∃ fault, ((expiringVote 4294967296).sign KeyStore.lookup (clockNetwork false) .null
          wallet).1.result = .error (.own fault) ∧ fault.report.kind = .encoding := by
  obtain ⟨o, hsized, hbuilt⟩ := exists_ofArguments_expiringVote 4294967296
  have haccounts : ∀ o' ∈ [o], o'.IsSized := by
    intro o' ho'
    rwa [List.mem_singleton.mp ho']
  have hlength : [o].length < 2 ^ 64 := by
    rw [List.length_singleton]
    decide
  have hnonneg : 0 ≤ newYear.seconds := by
    rw [seconds_newYear]
    decide
  have hlast (strict : Bool) : ((1451610000 : Nat) : Int)
      = newYear.seconds + (clockNetwork strict).maxExpirationOffset := by
    rw [seconds_newYear]
    rfl
  have hlate : 1451610000 < (expiringVote 4294967296).expiration.seconds := by decide
  have hstamped : (expiringVote 4294967296).expiration.seconds ≤ TimePoint.lastStamped := by decide
  have hready := checkPreconditions_expiringVote 4294967296
  obtain ⟨_, _, _, _, hstrict⟩ := isOwn_or_foreign_of_sign_error hbuilt hlength haccounts
    (by decide) wallet rfl hnonneg (hlast true) (by decide) .null trivial
  obtain ⟨c, hc, _, _, hlenient⟩ := isOwn_or_foreign_of_sign_error hbuilt hlength haccounts
    (by decide) wallet rfl hnonneg (hlast false) (by decide) .null trivial
  obtain ⟨hrefused, _⟩ :=
    (hstrict _ _ hready resolve_vote (chainOf_clockNetwork true)).1 hlate
  obtain ⟨_, hpassed, _⟩ :=
    (hlenient _ _ hready resolve_vote (chainOf_clockNetwork false)).1 hlate
  have hnum : Numeral.isWritable c.refBlockNum = true := by
    have hvalue : Value.int 34294 = .int c.refBlockNum :=
      congrArg Transaction.refBlockNum hc
    rw [Value.int.injEq] at hvalue
    rw [← hvalue]
    exact Numeral.isWritable_of_lt (by decide)
  obtain ⟨fault, hresult, hkind, _⟩ := hrefused hstamped rfl
  obtain ⟨fault', hresult', hkind'⟩ := (hpassed hstamped rfl).2 (Nat.le_refl _) hnum
  exact ⟨⟨o, hsized, hbuilt⟩, hnonneg, ⟨fault, hresult, hkind⟩, fault', hresult', hkind'⟩

/-- Signing does not only fail with faults of the library's own model: a vote that expires at the
beginning of the year 10000 fails with a foreign failure, whether the settings are strict or not. -/
theorem exists_foreign_failure_of_sign :
    (∃ o : Operation, o.IsSized ∧
        ofArguments (voteArguments 253402300800) ([o].map Operation.toEntry)
          = .ok (expiringVote 253402300800)) ∧
      0 ≤ newYear.seconds ∧
      ∀ strict, newYear.seconds + (clockNetwork strict).maxExpirationOffset < 2 ^ 32 ∧
        ∃ failure, ((expiringVote 253402300800).sign KeyStore.lookup (clockNetwork strict) .null
          wallet).1.result = .error failure ∧ failure.isOwn = false := by
  refine ⟨exists_ofArguments_expiringVote _, by rw [seconds_newYear]; decide, ?_⟩
  intro strict
  refine ⟨by rw [seconds_newYear]; decide +revert, ?_⟩
  have hforeign : (match ((expiringVote 253402300800).sign KeyStore.lookup (clockNetwork strict)
      .null wallet).1.result with
    | .ok _ => true
    | .error failure => failure.isOwn) = false := by
    cases strict <;> decide +kernel
  cases hresult : ((expiringVote 253402300800).sign KeyStore.lookup (clockNetwork strict) .null
      wallet).1.result with
  | ok texts =>
    rw [hresult] at hforeign
    cases hforeign
  | error failure =>
    rw [hresult] at hforeign
    exact ⟨failure, rfl, hforeign⟩

end Vote

end SignedTransaction

end GrapheneSigner
