import GrapheneSigner.Failure.Basic

/-!
# Which time points have a time stamp

The calendar has years with more than four digits, but time stamps do not: a time point has a time
stamp exactly up to the last second of the year 9999.
-/

namespace GrapheneSigner

namespace Date

/-- The last year of a cycle of 400 years starts with day 145731. -/
theorem yearOfCycle_cases {d : Nat} (hd : d < 146097) :
    ((d - d / 1460 + d / 36524 - d / 146096) / 365 ≤ 398 ∧ d < 145731) ∨
      ((d - d / 1460 + d / 36524 - d / 146096) / 365 = 399 ∧ 145731 ≤ d) := by
  have hleap : d / 1460 ≤ 98 ∨ d / 1460 = 99 ∨ d / 1460 = 100 := by omega
  rcases Nat.lt_or_ge d 145731 with hlt | hge
  · refine .inl ⟨?_, hlt⟩
    omega
  · refine .inr ⟨?_, hge⟩
    omega

/-- The years up to 9999 are those of the first 3652365 days. -/
theorem year_ofDayNumber_le_iff {n : Nat} : (ofDayNumber n).year ≤ 9999 ↔ n < 3652365 := by
  have hcycle := yearOfCycle_cases (Nat.mod_lt n (show 0 < 146097 by decide))
  unfold ofDayNumber
  dsimp only
  generalize (n % 146097 - n % 146097 / 1460 + n % 146097 / 36524 - n % 146097 / 146096) / 365 = y
    at hcycle ⊢
  -- only in the last year of a cycle do January and February belong to another cycle
  rcases hcycle with ⟨hy, hd⟩ | ⟨rfl, hd⟩
  · split <;> omega
  · split <;> omega

end Date

namespace TimePoint

/-- The last second of the year 9999. -/
def lastStamped : Nat := 253402300799

/-- A time point has a time stamp if and only if it is not behind the year 9999. -/
theorem exists_stamp_iff {t : TimePoint} :
    (∃ text, t.stamp = .ok text) ↔ t.seconds ≤ lastStamped := by
  have hyear : (Timestamp.Parts.ofSeconds t.seconds).date.year ≤ 9999
      ↔ t.seconds ≤ lastStamped := by
    have hdays : (Timestamp.Parts.ofSeconds t.seconds).date
        = .ofDayNumber (719468 + t.seconds / 86400) := rfl
    rw [hdays, Date.year_ofDayNumber_le_iff]
    unfold lastStamped
    omega
  unfold stamp write clockBound calendarBound
  rw [← hyear]
  dsimp only
  constructor
  · rintro ⟨text, htext⟩
    apply Nat.le_of_not_lt
    intro hlate
    rw [if_pos hlate] at htext
    split at htext
    · cases htext
    · split at htext <;> cases htext
  · intro hle
    have hseconds : t.seconds ≤ 253402300799 := hyear.mp hle
    rw [if_neg (by omega), if_neg (by omega), if_neg (by omega)]
    exact ⟨_, rfl⟩

/-- Where there is a time stamp, it is that of the parts of the seconds. -/
theorem eq_write_of_stamp {t : TimePoint} {text : Text} (h : t.stamp = .ok text) :
    text = (Timestamp.Parts.ofSeconds t.seconds).write := by
  unfold stamp write at h
  split at h
  · cases h
  · dsimp only at h
    split at h
    · cases h
    · split at h
      · cases h
      · exact (Except.ok.inj h).symm

theorem stamp_eq {t : TimePoint} (h : t.seconds ≤ lastStamped) :
    t.stamp = .ok (Timestamp.Parts.ofSeconds t.seconds).write := by
  obtain ⟨text, htext⟩ := exists_stamp_iff.mpr h
  rw [htext, eq_write_of_stamp htext]

theorem lt_of_stamp_error {t : TimePoint} {failure : Failure} (h : t.stamp = .error failure) :
    lastStamped < t.seconds := by
  apply Nat.lt_of_not_le
  intro hle
  obtain ⟨text, htext⟩ := exists_stamp_iff.mpr hle
  rw [h] at htext
  cases htext

theorem exists_stamp_error {t : TimePoint} (h : lastStamped < t.seconds) :
    ∃ failure, t.stamp = .error failure := by
  cases hstamp : t.stamp with
  | ok text => exact absurd (exists_stamp_iff.mp ⟨text, hstamp⟩) (Nat.not_le_of_lt h)
  | error failure => exact ⟨failure, rfl⟩

end TimePoint

end GrapheneSigner
