import GrapheneSigner.Proofs.Calendar.Gregorian
import GrapheneSigner.Proofs.Calendar.Stamp
import GrapheneSigner.Proofs.Text.Numeral
import GrapheneSigner.Proofs.Text.Pieces

/-!
# Time stamps read back

A time stamp names a time in UTC by its date and its time of day, in numbers of a fixed width.  Read
like this, the time stamp of a number of seconds stands for this number, up to the end of the year
9999, and no other text does.
-/

namespace GrapheneSigner

namespace Timestamp

/-- A number of exactly `width` digits. -/
def fixed? (width : Nat) (t : Text) : Option Nat :=
  if t.length = width then Text.decimalFrom? 0 t else none

/-- The date of its year, month and day, if it exists. -/
def dateOf? : List Text → Option Date
  | [year, month, day] => do
    let date : Date := ⟨← fixed? 4 year, ← fixed? 2 month, ← fixed? 2 day⟩
    if date.Exists then some date else none
  | _ => none

/-- The seconds of a day up to a time of its hour, minute and second. -/
def secondsOf? : List Text → Option Nat
  | [hour, minute, second] => do
    let hour ← fixed? 2 hour
    let minute ← fixed? 2 minute
    let second ← fixed? 2 second
    if hour < 24 ∧ minute < 60 ∧ second < 60 then some (hour * 3600 + minute * 60 + second)
    else none
  | _ => none

/-- The seconds from the epoch to the time of a time stamp in UTC.  Days are counted. -/
def iso? (t : Text) : Option Nat :=
  match t.splitOn (.ofNat 0x54) with
  | [date, time] => do
    let date ← dateOf? (date.splitOn (.ofNat 0x2D))
    let seconds ← secondsOf? (time.splitOn (.ofNat 0x3A))
    let epoch := Date.daysBefore ⟨1970, 1, 1⟩
    if epoch ≤ date.daysBefore then some ((date.daysBefore - epoch) * 86400 + seconds) else none
  | _ => none

theorem fixed?_ofNatPadded {width n : Nat} (hwidth : 0 < width) (h : n < 10 ^ width) :
    fixed? width (Text.ofNatPadded width n) = some n := by
  rw [fixed?, if_pos (Text.length_ofNatPadded hwidth h), Text.decimalFrom?_ofNatPadded, zero_mul,
    zero_add]

/-- Three numerals with a mark between them are taken apart at the mark. -/
theorem splitOn_three {mark : CodePoint} (hmark : mark.val < 0x30 ∨ 0x39 < mark.val)
    {a b c : Text} (ha : a.OnlyDigits) (hb : b.OnlyDigits) (hc : c.OnlyDigits) :
    (Text.join [mark] [a, b, c]).splitOn mark = [a, b, c] := by
  apply Text.splitOn_join (by simp)
  simp only [List.forall_mem_cons]
  exact ⟨ha.not_mem hmark, hb.not_mem hmark, hc.not_mem hmark, by simp⟩

/-- Neither a numeral nor another mark holds a mark. -/
theorem not_mem_three {mark other : CodePoint} (hmark : mark.val < 0x30 ∨ 0x39 < mark.val)
    (hother : mark ≠ other) {a b c : Text} (ha : a.OnlyDigits) (hb : b.OnlyDigits)
    (hc : c.OnlyDigits) : mark ∉ Text.join [other] [a, b, c] := by
  have hnot := ha.not_mem hmark
  have hnot' := hb.not_mem hmark
  have hnot'' := hc.not_mem hmark
  simp [Text.join, hnot, hnot', hnot'', hother]

/-- Parts that are in range. -/
structure Parts.IsProper (p : Parts) : Prop where
  exists_date : p.date.Exists
  year_le : p.date.year ≤ 9999
  hour_lt : p.hour < 24
  minute_lt : p.minute < 60
  second_lt : p.second < 60

theorem daysInMonth_le (year month : Nat) : Date.daysInMonth year month ≤ 31 := by
  unfold Date.daysInMonth
  split
  · split <;> omega
  · split <;> omega

theorem dateOf?_numerals {d : Date} (h : d.Exists) (hyear : d.year ≤ 9999) :
    dateOf? [Text.ofNatPadded 4 d.year, Text.ofNatPadded 2 d.month, Text.ofNatPadded 2 d.day]
      = some d := by
  have hmonth : d.month ≤ 12 := h.2.2.1
  have hday : d.day ≤ 31 := h.2.2.2.2.trans (daysInMonth_le _ _)
  unfold dateOf?
  dsimp only
  rw [fixed?_ofNatPadded (by decide) (by omega), fixed?_ofNatPadded (by decide) (by omega),
    fixed?_ofNatPadded (by decide) (by omega)]
  exact if_pos h

theorem secondsOf?_numerals {hour minute second : Nat}
    (h : hour < 24 ∧ minute < 60 ∧ second < 60) :
    secondsOf? [Text.ofNatPadded 2 hour, Text.ofNatPadded 2 minute, Text.ofNatPadded 2 second]
      = some (hour * 3600 + minute * 60 + second) := by
  unfold secondsOf?
  dsimp only
  rw [fixed?_ofNatPadded (by decide) (by omega), fixed?_ofNatPadded (by decide) (by omega),
    fixed?_ofNatPadded (by decide) (by omega)]
  exact if_pos h

/-- A time stamp is made up of date and time, and these of numerals. -/
theorem Parts.write_eq (p : Parts) :
    p.write = Text.join [.ofNat 0x2D] [Text.ofNatPadded 4 p.date.year,
        Text.ofNatPadded 2 p.date.month, Text.ofNatPadded 2 p.date.day]
      ++ .ofNat 0x54 :: Text.join [.ofNat 0x3A] [Text.ofNatPadded 2 p.hour,
        Text.ofNatPadded 2 p.minute, Text.ofNatPadded 2 p.second] := by
  have hdash : lit "-" = [.ofNat 0x2D] := rfl
  have hletter : lit "T" = [.ofNat 0x54] := rfl
  have hcolon : lit ":" = [.ofNat 0x3A] := rfl
  unfold Parts.write
  rw [hdash, hletter, hcolon]
  simp only [Text.join, List.append_assoc, List.cons_append, List.nil_append]

/-- What is written for proper parts is read part by part. -/
theorem iso?_write {p : Parts} (h : p.IsProper) :
    iso? p.write
      = if Date.daysBefore ⟨1970, 1, 1⟩ ≤ p.date.daysBefore then
          some ((p.date.daysBefore - Date.daysBefore ⟨1970, 1, 1⟩) * 86400
            + (p.hour * 3600 + p.minute * 60 + p.second))
        else none := by
  have hdigits := Text.onlyDigits_ofNatPadded
  unfold iso?
  rw [p.write_eq, Text.splitOn_append (not_mem_three (by decide) (by decide) (hdigits _ _)
      (hdigits _ _) (hdigits _ _)), Text.splitOn_of_not_mem (not_mem_three (by decide) (by decide)
      (hdigits _ _) (hdigits _ _) (hdigits _ _))]
  dsimp only
  rw [splitOn_three (by decide) (hdigits _ _) (hdigits _ _) (hdigits _ _),
    splitOn_three (by decide) (hdigits _ _) (hdigits _ _) (hdigits _ _)]
  rw [dateOf?_numerals h.exists_date h.year_le,
    secondsOf?_numerals ⟨h.hour_lt, h.minute_lt, h.second_lt⟩]
  simp only [Option.bind_eq_bind, Option.bind_some]

/-- The parts of a number of seconds up to the end of the year 9999 are in range. -/
theorem Parts.isProper_ofSeconds {seconds : Nat} (h : seconds ≤ TimePoint.lastStamped) :
    (Parts.ofSeconds seconds).IsProper where
  exists_date := (Date.ofDayNumber_spec _).2 (by unfold Date.epoch secondsPerDay; omega)
  year_le := by
    unfold TimePoint.lastStamped at h
    exact Date.year_ofDayNumber_le_iff.mpr (by unfold Date.epoch secondsPerDay; omega)
  hour_lt := by
    unfold ofSeconds secondsPerDay
    dsimp only
    omega
  minute_lt := by
    unfold ofSeconds
    dsimp only
    omega
  second_lt := Nat.mod_lt _ (by decide)

/-- The time stamp of a number of seconds stands for this number. -/
theorem iso?_ofSeconds {seconds : Nat} (h : seconds ≤ TimePoint.lastStamped) :
    iso? (Parts.ofSeconds seconds).write = some seconds := by
  have hproper := Parts.isProper_ofSeconds h
  have hdays : (Parts.ofSeconds seconds).date.daysBefore
      = Date.epoch + seconds / secondsPerDay + 60 := by
    rw [Date.daysBefore_eq hproper.exists_date]
    exact congrArg (· + 60) (Date.ofDayNumber_spec _).1
  rw [iso?_write hproper, hdays, Date.daysBefore_epoch]
  unfold Parts.ofSeconds secondsPerDay
  dsimp only
  rw [if_pos (by omega), Option.some.injEq]
  omega

/-! ### Time stamps with a meaning -/

theorem fixed?_eq_some_iff {width n : Nat} {t : Text} (hwidth : 0 < width) :
    fixed? width t = some n ↔ n < 10 ^ width ∧ t = Text.ofNatPadded width n := by
  constructor
  · intro h
    unfold fixed? at h
    split at h
    · rename_i hlength
      have hne : t ≠ [] := List.length_pos_iff.mp (hlength ▸ hwidth)
      obtain ⟨hrow, hbound⟩ := Text.eq_ofNatPadded_of_decimalFrom? hne h
      rw [hlength] at hrow hbound
      exact ⟨hbound, hrow⟩
    · cases h
  · intro h
    rw [h.2, fixed?_ofNatPadded hwidth h.1]

theorem exists_of_dateOf? {pieces : List Text} {d : Date} (h : dateOf? pieces = some d) :
    d.Exists ∧ d.year ≤ 9999 ∧ pieces
      = [Text.ofNatPadded 4 d.year, Text.ofNatPadded 2 d.month, Text.ofNatPadded 2 d.day] := by
  unfold dateOf? at h
  split at h
  · obtain ⟨year, hyear, h⟩ := Option.bind_eq_some_iff.mp h
    obtain ⟨month, hmonth, h⟩ := Option.bind_eq_some_iff.mp h
    obtain ⟨day, hday, h⟩ := Option.bind_eq_some_iff.mp h
    obtain ⟨hexists, hdate⟩ := Option.ite_none_right_eq_some.mp h
    cases hdate
    obtain ⟨hbound, rfl⟩ := (fixed?_eq_some_iff (by decide)).mp hyear
    obtain ⟨_, rfl⟩ := (fixed?_eq_some_iff (by decide)).mp hmonth
    obtain ⟨_, rfl⟩ := (fixed?_eq_some_iff (by decide)).mp hday
    exact ⟨hexists, Nat.le_of_lt_succ hbound, rfl⟩
  · cases h

theorem exists_of_secondsOf? {pieces : List Text} {n : Nat} (h : secondsOf? pieces = some n) :
    ∃ hour minute second, (hour < 24 ∧ minute < 60 ∧ second < 60) ∧
      n = hour * 3600 + minute * 60 + second ∧
      pieces = [Text.ofNatPadded 2 hour, Text.ofNatPadded 2 minute, Text.ofNatPadded 2 second] := by
  unfold secondsOf? at h
  split at h
  · obtain ⟨hour, hhour, h⟩ := Option.bind_eq_some_iff.mp h
    obtain ⟨minute, hminute, h⟩ := Option.bind_eq_some_iff.mp h
    obtain ⟨second, hsecond, h⟩ := Option.bind_eq_some_iff.mp h
    obtain ⟨hbounds, hn⟩ := Option.ite_none_right_eq_some.mp h
    cases hn
    obtain ⟨_, rfl⟩ := (fixed?_eq_some_iff (by decide)).mp hhour
    obtain ⟨_, rfl⟩ := (fixed?_eq_some_iff (by decide)).mp hminute
    obtain ⟨_, rfl⟩ := (fixed?_eq_some_iff (by decide)).mp hsecond
    exact ⟨hour, minute, second, hbounds, rfl, rfl⟩
  · cases h

/-- Only what is written for proper parts stands for seconds from the epoch. -/
theorem exists_of_iso? {t : Text} {n : Nat} (h : iso? t = some n) :
    ∃ p : Parts, p.IsProper ∧ t = p.write ∧ p.seconds = n := by
  unfold iso? at h
  split at h
  · rename_i date time hsplit
    obtain ⟨d, hdate, h⟩ := Option.bind_eq_some_iff.mp h
    obtain ⟨seconds, htime, h⟩ := Option.bind_eq_some_iff.mp h
    obtain ⟨hepoch, hn⟩ := Option.ite_none_right_eq_some.mp h
    obtain ⟨hexists, hyear, hpieces⟩ := exists_of_dateOf? hdate
    obtain ⟨hour, minute, second, hbounds, hseconds, hpieces'⟩ := exists_of_secondsOf? htime
    refine ⟨⟨d, hour, minute, second⟩,
      ⟨hexists, hyear, hbounds.1, hbounds.2.1, hbounds.2.2⟩, ?_, ?_⟩
    · rw [Parts.write_eq, ← hpieces, ← hpieces', Text.join_splitOn, Text.join_splitOn]
      exact (Text.splitOn_eq_pair_iff.mp hsplit).1
    · cases hn
      rw [Date.daysBefore_eq hexists, Date.daysBefore_epoch] at hepoch ⊢
      unfold Parts.seconds secondsPerDay
      dsimp only
      omega
  · cases h

/-- The parts of a number of seconds are the only proper ones for it. -/
theorem Parts.ofSeconds_eq {p : Parts} {n : Nat} (h : p.IsProper) (hn : p.seconds = n) :
    Parts.ofSeconds n = p := by
  obtain ⟨date, hour, minute, second⟩ := p
  obtain ⟨hexists, _, hhour, hminute, hsecond⟩ := h
  unfold Parts.seconds secondsPerDay at hn
  dsimp only at hexists hhour hminute hsecond hn
  have hday : Date.epoch + n / 86400 = date.dayNumber := by omega
  unfold Parts.ofSeconds secondsPerDay
  rw [hday, Date.ofDayNumber_dayNumber hexists, Parts.mk.injEq]
  refine ⟨rfl, ?_, ?_, ?_⟩ <;> omega

/-- A text stands for seconds if and only if it is the time stamp of these seconds. -/
theorem iso?_eq_some_iff {t : Text} {n : Nat} :
    iso? t = some n ↔ n ≤ TimePoint.lastStamped ∧ t = (Parts.ofSeconds n).write := by
  constructor
  · intro h
    obtain ⟨p, hproper, rfl, hseconds⟩ := exists_of_iso? h
    have hparts : Parts.ofSeconds n = p := Parts.ofSeconds_eq hproper hseconds
    have hdate : p.date = Date.ofDayNumber (Date.epoch + n / secondsPerDay) := by
      rw [← hparts, Parts.ofSeconds]
    have hyear := hproper.year_le
    rw [hdate, Date.year_ofDayNumber_le_iff] at hyear
    unfold Date.epoch secondsPerDay at hyear
    refine ⟨?_, congrArg Parts.write hparts.symm⟩
    unfold TimePoint.lastStamped
    omega
  · rintro ⟨hle, rfl⟩
    exact iso?_ofSeconds hle

end Timestamp

end GrapheneSigner
