import GrapheneSigner.Operation.Draft
import GrapheneSigner.Proofs.Calendar.Gregorian
import GrapheneSigner.Proofs.Calendar.WholeSeconds

/-!
# Instants of clock readings

A clock reading with its offset denotes an instant, which is a number of microseconds from the
epoch.  As long as the seconds of the instant fit into 32 bits, the time point of the reading is the
instant rounded down to whole seconds.  So it depends on the instant alone, it does not go back when
the instant moves on, and it has a wire form.
-/

namespace GrapheneSigner

namespace ClockReading

/-- The microseconds from the epoch to a reading in UTC, by counting days. -/
def instant (r : ClockReading) : Int :=
  ((r.date.daysBefore : Int) - Date.daysBefore ⟨1970, 1, 1⟩) * 86400000000
    + r.hour * 3600000000 + r.minute * 60000000 + r.second * 1000000 + r.microsecond
    - (r.offset.getD .zero).microseconds

/-- The reading has a date that exists, and its seconds from the epoch fit into 32 bits. -/
structure InRange (r : ClockReading) : Prop where
  exists_date : r.date.Exists
  le_instant : 0 ≤ r.instant
  instant_lt : r.instant < 2 ^ 32 * 10 ^ 6

theorem microseconds_eq_instant {r : ClockReading} (h : r.date.Exists) :
    r.microseconds = r.instant := by
  unfold microseconds instant Timestamp.Parts.seconds secondsPerDay
  rw [Date.daysBefore_eq h, Date.daysBefore_epoch]
  push_cast
  ring

/-- The date of a reading whose parts were checked exists. -/
theorem exists_date_of_ofParts {year month day hour minute second microsecond : Int}
    {offset : Option Duration} {r : ClockReading}
    (h : ofParts year month day hour minute second microsecond offset = .ok r) : r.date.Exists := by
  unfold ofParts at h
  split_ifs at h with hyear hmonth hday
  cases h
  unfold Date.Exists
  dsimp only
  omega

/-- The range of a reading whose parts were checked can be decided without counting days. -/
theorem inRange_of_ofParts {year month day hour minute second microsecond : Int}
    {offset : Option Duration} {r : ClockReading}
    (h : ofParts year month day hour minute second microsecond offset = .ok r)
    (hlow : 0 ≤ r.microseconds) (hhigh : r.microseconds < 2 ^ 32 * 10 ^ 6) : r.InRange := by
  have hdate := exists_date_of_ofParts h
  rw [microseconds_eq_instant hdate] at hlow hhigh
  exact ⟨hdate, hlow, hhigh⟩

theorem seconds_eq {r : ClockReading} (h : r.InRange) : r.seconds = r.instant / 10 ^ 6 := by
  rw [seconds, microseconds_eq_instant h.exists_date]
  exact wholeSeconds_of_lt h.le_instant h.instant_lt

end ClockReading

namespace TimePoint

/-- The time point of a reading is its instant, rounded down. -/
theorem run_ofSeconds_clock {r : ClockReading} (h : r.InRange) :
    (ofSeconds (.clock r)).run = .ok ⟨(r.instant / 10 ^ 6).toNat⟩ := by
  have hseconds : r.seconds = ((r.instant / 10 ^ 6).toNat : Int) := by
    have := h.le_instant
    rw [r.seconds_eq h]
    omega
  have hint : (ofSeconds (.clock r)).run = ofInt r.seconds := rfl
  rw [hint, ofInt_eq_ok_iff, hseconds]

/-- The wire form of a time point whose seconds fit into 32 bits. -/
theorem encode_writing {t : TimePoint} (h : t.seconds < byteRange 4) (field : Option Text) :
    ((Value.time t).writing field).encode = .ok (littleEndian 4 t.seconds) := by
  have hgreatest : WireInt.u32.greatest = (byteRange 4 : Int) - 1 := rfl
  have hencode : WireInt.u32.encode? t.seconds = some (WireInt.u32.encode t.seconds) :=
    if_pos ⟨Int.natCast_nonneg _, by omega⟩
  have hbytes : WireInt.u32.encode t.seconds = littleEndian 4 t.seconds := by
    have hmod : (t.seconds : Int).emod (byteRange 4) = t.seconds :=
      Int.emod_eq_of_lt (Int.natCast_nonneg _) (Int.ofNat_lt.mpr h)
    change littleEndian 4 ((t.seconds : Int).emod (byteRange 4)).toNat = _
    rw [hmod, Int.toNat_natCast]
  unfold Value.writing Writing.encode Call.encode
  dsimp only [Value.integer?, Option.bind_some]
  rw [hencode, hbytes]
  dsimp only [Writing.encode_nil]
  rw [List.append_nil]

/-- Clock readings are rounded down to the second of their instant, although they are divided in
double precision first.  So two readings of one instant give the same time point, a reading of a
later instant does not give an earlier one, and the time point is written in four bytes. -/
theorem floor_of_clock {r q : ClockReading} (hr : r.InRange) (hq : q.InRange) :
    ∃ t u : TimePoint, (ofSeconds (.clock r)).run = .ok t ∧ (ofSeconds (.clock q)).run = .ok u ∧
      (t.seconds : Int) = r.instant / 10 ^ 6 ∧
      (r.instant = q.instant → t = u) ∧ (r.instant ≤ q.instant → t.seconds ≤ u.seconds) ∧
      ∀ field, ∃ bytes, ((Value.time t).writing field).encode = .ok bytes ∧ bytes.length = 4 ∧
        ofLittleEndian bytes = t.seconds := by
  have hlow := hr.le_instant
  have hhigh := hr.instant_lt
  refine ⟨_, _, run_ofSeconds_clock hr, run_ofSeconds_clock hq, ?_, ?_, ?_, ?_⟩
  · dsimp only
    omega
  · intro h
    rw [h]
  · intro h
    dsimp only
    omega
  · generalize ht : (⟨(r.instant / 10 ^ 6).toNat⟩ : TimePoint) = t
    have hlt : t.seconds < byteRange 4 := by
      rw [← ht, show byteRange 4 = 2 ^ 32 from rfl]
      dsimp only
      omega
    intro field
    refine ⟨_, encode_writing hlt field, length_littleEndian _ _, ?_⟩
    rw [ofLittleEndian_littleEndian, Nat.mod_eq_of_lt hlt]

/-- The last microsecond before 2 to the power 32 seconds belongs to the second before, on a clock
in UTC and on one that is five and a half hours ahead. -/
theorem floor_of_clock_last :
    let r : ClockReading := ⟨⟨2106, 2, 7⟩, 6, 28, 15, 999999, none⟩
    let q : ClockReading := ⟨⟨2106, 2, 7⟩, 11, 58, 15, 999999, some ⟨19800000000⟩⟩
    r.InRange ∧ q.InRange ∧ r.instant = 2 ^ 32 * 10 ^ 6 - 1 ∧
      ∃ t : TimePoint, (ofSeconds (.clock r)).run = .ok t ∧ (ofSeconds (.clock q)).run = .ok t ∧
        t.seconds = 2 ^ 32 - 1 := by
  intro r q
  have hparts : ClockReading.ofParts 2106 2 7 6 28 15 999999 none = .ok r := rfl
  have hparts' : ClockReading.ofParts 2106 2 7 11 58 15 999999 (some ⟨19800000000⟩) = .ok q := rfl
  have hr : r.InRange := ClockReading.inRange_of_ofParts hparts (by decide) (by decide)
  have hq : q.InRange := ClockReading.inRange_of_ofParts hparts' (by decide) (by decide)
  have hlast : r.instant = 2 ^ 32 * 10 ^ 6 - 1 := by
    rw [← ClockReading.microseconds_eq_instant hr.exists_date]
    decide
  have hsame : r.instant = q.instant := by
    rw [hlast, ← ClockReading.microseconds_eq_instant hq.exists_date]
    decide
  obtain ⟨t, u, ht, hu, hseconds, heq, -, -⟩ := floor_of_clock hr hq
  rw [← heq hsame] at hu
  rw [hlast] at hseconds
  exact ⟨hr, hq, hlast, t, ht, hu, by omega⟩

end TimePoint

end GrapheneSigner
