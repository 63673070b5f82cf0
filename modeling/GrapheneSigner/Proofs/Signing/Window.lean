import GrapheneSigner.Proofs.Calendar.WholeSeconds
import GrapheneSigner.Proofs.Transaction.Expiration
import GrapheneSigner.Signing.Engine

/-!
# The window of expirations

The latest expiration that the network accepts is computed without rounding, since a duration of
whole seconds is below the bound of mantissas.  A search for signatures starts with the expiration
of the transaction if it is set, and else within the window.
-/

namespace GrapheneSigner

/-- A duration of whole seconds has these seconds. -/
theorem Duration.seconds_of_ofSeconds? {k : Int} {d : Duration} (h : ofSeconds? k = some d) :
    d.seconds = k := by
  unfold ofSeconds? ofMicroseconds? at h
  split at h
  · rename_i hdays
    cases h
    have hdiv : (k * 1000000).fdiv microsecondsPerDay = k * 1000000 / 86400000000 :=
      Int.fdiv_eq_ediv_of_nonneg _ (by decide)
    rw [hdiv] at hdays
    have hbound : k.natAbs < Binary64.mantissaBound := by
      unfold Binary64.mantissaBound
      omega
    exact wholeSeconds_mul hbound
  · cases h

/-- There are durations of some milliard seconds. -/
theorem Duration.exists_ofSeconds? {k : Int} (h : 0 ≤ k) (hlt : k < 4294967296) :
    ∃ d, ofSeconds? k = some d := by
  have hdiv : (k * 1000000).fdiv microsecondsPerDay = k * 1000000 / 86400000000 :=
    Int.fdiv_eq_ediv_of_nonneg _ (by decide)
  unfold ofSeconds? ofMicroseconds?
  rw [hdiv, if_pos (by omega)]
  exact ⟨_, rfl⟩

namespace TimePoint

theorem addSeconds_eq_ok_iff {t e : TimePoint} {d : Int} :
    t.addSeconds d = .ok e ↔ (e.seconds : Int) = t.seconds + d :=
  ofInt_eq_ok_iff

/-- One second later there is always a time point. -/
theorem addSeconds_one (t : TimePoint) : t.addSeconds 1 = .ok ⟨t.seconds + 1⟩ :=
  addSeconds_eq_ok_iff.mpr (Int.natCast_succ t.seconds)

/-- A time point without time stamp fails with a foreign failure. -/
theorem stamp_error {t : TimePoint} {failure : Failure} (h : t.stamp = .error failure) :
    ∃ cause, failure = .foreign cause := by
  unfold stamp at h
  cases hwrite : t.write with
  | ok text =>
    rw [hwrite] at h
    cases h
  | error fault =>
    rw [hwrite] at h
    cases h
    exact ⟨_, rfl⟩

end TimePoint

namespace Config

/-- The window of expirations ends at `last`: as many seconds behind now as the settings allow. -/
def WindowEnds (config : Config) (last : Nat) : Prop :=
  ∃ now, config.time = .ok now ∧ (last : Int) = now.seconds + config.maxExpirationOffset

/-- The clock reads one time, so that the window has one end. -/
theorem WindowEnds.eq {config : Config} {last last' : Nat} (h : config.WindowEnds last)
    (h' : config.WindowEnds last') : last = last' := by
  obtain ⟨now, hnow, hlast⟩ := h
  obtain ⟨now', hnow', hlast'⟩ := h'
  rw [hnow] at hnow'
  cases hnow'
  omega

end Config

namespace Transaction

theorem seconds_of_latest {config : Config} {l : TimePoint} (h : latest config = .ok l) :
    config.WindowEnds l.seconds := by
  unfold latest at h
  cases hnow : config.time with
  | error failure => simp [hnow, bind, Except.bind] at h
  | ok now =>
    cases hwindow : Duration.ofSeconds? config.maxExpirationOffset with
    | none => simp [hnow, hwindow, bind, Except.bind] at h
    | some window =>
      simp only [hnow, hwindow, bind, Except.bind, TimePoint.addDuration] at h
      refine ⟨now, hnow, ?_⟩
      rw [TimePoint.addSeconds_eq_ok_iff.mp h, Duration.seconds_of_ofSeconds? hwindow]

/-- The latest expiration is there if a clock that is not before the epoch reads the time, and the
window ends within 32 bits. -/
theorem latest_of_clock {config : Config} {r : ClockReading} {last : Nat}
    (hclock : config.now = .ok (.clock r)) (hnonneg : 0 ≤ r.seconds)
    (hlast : (last : Int) = r.seconds + config.maxExpirationOffset) (hbound : last < 2 ^ 32) :
    latest config = .ok ⟨last⟩ := by
  have hoffset := config.offset_gt
  have hnow : config.time = .ok ⟨r.seconds.toNat⟩ := by
    rw [Config.time, hclock]
    exact TimePoint.ofInt_eq_ok_iff.mpr (Int.toNat_of_nonneg hnonneg)
  obtain ⟨d, hd⟩ := Duration.exists_ofSeconds? (k := config.maxExpirationOffset) (by omega)
    (by omega)
  have hadd : (TimePoint.mk r.seconds.toNat).addDuration d = .ok ⟨last⟩ := by
    refine TimePoint.addSeconds_eq_ok_iff.mpr ?_
    rw [Duration.seconds_of_ofSeconds? hd, hlast]
    dsimp only
    omega
  unfold latest
  simp only [hnow, hd, hadd, bind, Except.bind]

/-- The expiration with which a search for signatures starts: the one of the transaction if it is
set, and else one minute below the latest one, which is still to come. -/
def StartsAt (t : Transaction) (config : Config) (start : Nat) : Prop :=
  (t.expiration.isSet = true → start = t.expiration.seconds) ∧
  (t.expiration.isSet = false →
    ∃ now, config.time = .ok now ∧ now.seconds < start ∧
      (start : Int) = now.seconds + config.maxExpirationOffset - 60)

/-- A set expiration stays, whatever the window says about it. -/
theorem prepareExpiration_of_isSet {t : Transaction} (config : Config)
    (hset : t.expiration.isSet = true) : (t.prepareExpiration config).left = t := by
  unfold prepareExpiration
  cases latest config with
  | error failure => rfl
  | ok l =>
    simp only [hset, Bool.not_true, Bool.false_eq_true, if_false]
    split
    · cases t.expiration.stamp with
      | error failure => rfl
      | ok stamp =>
        cases config.strictExpiration with
        | false => rfl
        | true => cases l.stamp <;> rfl
    · rfl

/-- An expiration within the window passes. -/
theorem prepareExpiration_of_le {t : Transaction} {config : Config} {l : TimePoint}
    (hlatest : latest config = .ok l) (hset : t.expiration.isSet = true)
    (hle : t.expiration.seconds ≤ l.seconds) : (t.prepareExpiration config).result = .ok () := by
  unfold prepareExpiration
  simp only [hlatest, hset, Bool.not_true, Bool.false_eq_true, if_false,
    if_neg (Nat.not_lt_of_le hle)]

/-- Strict settings refuse an expiration behind the window, and others let it pass; either way it
is written into a message, if it has a time stamp. -/
theorem prepareExpiration_of_late {t : Transaction} {config : Config} {l : TimePoint}
    (hlatest : latest config = .ok l) (hlate : l.seconds < t.expiration.seconds) :
    (t.prepareExpiration config).result = t.expiration.stamp.bind fun stamp ↦
      if config.strictExpiration = true then
        l.stamp.bind fun latest ↦ .error (refused (lateMessage stamp)
          [(lit "expiration", .chars stamp), (lit "latest", .chars latest)])
      else .ok () := by
  have hset : t.expiration.isSet = true := by
    unfold TimePoint.isSet
    rw [bne_iff_ne]
    omega
  unfold prepareExpiration
  simp only [hlatest, hset, Bool.not_true, Bool.false_eq_true, if_false, if_pos hlate]
  cases t.expiration.stamp with
  | error failure => rfl
  | ok stamp =>
    cases config.strictExpiration with
    | false => rfl
    | true => cases l.stamp <;> rfl

/-- If nobody has touched the transaction, the default expiration can be set. -/
theorem prepareExpiration_of_intact {t : Transaction} {config : Config} {l e : TimePoint}
    (hlatest : latest config = .ok l) (hframe : t.frame = {}) (hunset : t.expiration.isSet = false)
    (he : l.addSeconds (-Config.safetyMargin) = .ok e) :
    (t.prepareExpiration config).result = e.stamp.map fun _ ↦ () := by
  unfold prepareExpiration
  simp only [hlatest, hunset, he, expireAt_intact hframe, Bool.not_false, if_true]

/-- An expiration that is not set becomes the one with which the search starts, unless there is a
failure before. -/
theorem prepareExpiration_of_unset {t : Transaction} (config : Config)
    (hunset : t.expiration.isSet = false) :
    ((t.prepareExpiration config).left = t ∧
      ∃ failure, (t.prepareExpiration config).result = .error failure) ∨
    ∃ e, t.StartsAt config e.seconds ∧ t.expireAt e = .ok (t.prepareExpiration config).left ∧
      (t.prepareExpiration config).result = e.stamp.map fun _ ↦ () := by
  unfold prepareExpiration
  cases hlatest : latest config with
  | error failure => exact .inl ⟨rfl, failure, rfl⟩
  | ok l =>
    obtain ⟨now, hnow, hseconds⟩ := seconds_of_latest hlatest
    simp only [hunset, Bool.not_false, if_true]
    cases he : l.addSeconds (-Config.safetyMargin) with
    | error failure => exact .inl ⟨rfl, failure, rfl⟩
    | ok e =>
      have hsum : (e.seconds : Int) = now.seconds + config.maxExpirationOffset - 60 := by
        rw [TimePoint.addSeconds_eq_ok_iff.mp he, hseconds]
        rfl
      have hlater : now.seconds < e.seconds := by
        have hoffset : 60 < config.maxExpirationOffset := config.offset_gt
        omega
      have hstarts : t.StartsAt config e.seconds := by
        refine ⟨?_, fun _ ↦ ⟨now, hnow, hlater, hsum⟩⟩
        intro hset
        rw [hunset] at hset
        cases hset
      dsimp only
      cases hassign : t.expireAt e with
      | error failure => exact .inl ⟨rfl, failure, rfl⟩
      | ok left => exact .inr ⟨e, hstarts, hassign, rfl⟩

/-- Preparing the expiration leaves the transaction as it was, or with the expiration with which the
search starts, and then only the time stamp of that one can fail. -/
theorem prepareExpiration_left (t : Transaction) (config : Config) :
    (t.prepareExpiration config).left = t ∨
    ∃ e, t.StartsAt config e.seconds ∧ t.expireAt e = .ok (t.prepareExpiration config).left ∧
      (t.prepareExpiration config).result = e.stamp.map fun _ ↦ () := by
  cases hset : t.expiration.isSet with
  | true => exact .inl (prepareExpiration_of_isSet config hset)
  | false => exact (prepareExpiration_of_unset config hset).imp_left And.left

/-- If preparing the expiration succeeds, the transaction has the expiration with which the search
starts, and an expiration that was not set could be assigned. -/
theorem startsAt_of_prepareExpiration {t : Transaction} (hsurplus : t.frame.NoSurplus)
    {config : Config} (h : (t.prepareExpiration config).result = .ok ()) :
    t.StartsAt config (t.prepareExpiration config).left.expiration.seconds ∧
      (t.expiration.isSet = false → t.frame.admits (lit "expiration") = true) := by
  cases hset : t.expiration.isSet with
  | true =>
    rw [prepareExpiration_of_isSet config hset]
    refine ⟨⟨fun _ ↦ rfl, ?_⟩, fun hunset ↦ by cases hunset⟩
    intro hunset
    rw [hset] at hunset
    cases hunset
  | false =>
    rcases prepareExpiration_of_unset config hset with ⟨_, failure, herror⟩ |
      ⟨e, hstarts, hassign, _⟩
    · rw [h] at herror
      cases herror
    · have hexpires := expiresAt_of_expireAt hsurplus hassign
      rw [hexpires.expiration]
      exact ⟨hstarts, fun _ ↦ hexpires.admitted⟩

end Transaction

end GrapheneSigner
