import Mathlib.Algebra.BigOperators.Group.Finset.Basic
import Mathlib.Tactic.IntervalCases
import Mathlib.Tactic.Ring
import GrapheneSigner.Calendar.Gregorian

/-!
# Days of the Gregorian calendar

The number of a day is what one gets by counting the days of all years and months before it, and
every number from the beginning of year 1 on belongs to exactly one date that exists.  A day of a
cycle of 400 years is told apart by its century, by the fourth year within the century, by the year
behind that and by the day of the year; years are counted in March here, so that a leap day is the
last day of its year.
-/

namespace GrapheneSigner

namespace Date

def yearLength (year : Nat) : Nat := if isLeap year then 366 else 365

/-- The number of days from the first of January of year 0 to a date: the days of the years before,
of the months before in its year, and of its month. -/
def daysBefore (d : Date) : Nat :=
  ∑ year ∈ Finset.range d.year, yearLength year
    + ∑ month ∈ Finset.range (d.month - 1), daysInMonth d.year (month + 1) + (d.day - 1)

/-! ### Counting days -/

theorem isLeap_iff {year : Nat} :
    isLeap year = true ↔ year % 4 = 0 ∧ (year % 100 ≠ 0 ∨ year % 400 = 0) := by
  simp [isLeap]

/-- There is a leap day every four years, but not every hundred, and yet every four hundred. -/
theorem sum_yearLength (year : Nat) :
    ∑ y ∈ Finset.range year, yearLength y + (year + 99) / 100
      = 365 * year + (year + 3) / 4 + (year + 399) / 400 := by
  induction year with
  | zero => rfl
  | succ year ih =>
    rw [Finset.sum_range_succ, yearLength]
    by_cases hleap : isLeap year = true
    · have hrule := isLeap_iff.mp hleap
      rw [if_pos hleap]
      omega
    · have hrule := mt isLeap_iff.mpr hleap
      rw [if_neg hleap]
      omega

/-- The days of the months before a month, with 28 days for February. -/
theorem sum_daysInMonth {year month : Nat} (hlow : 1 ≤ month) (hhigh : month ≤ 12) :
    ∑ m ∈ Finset.range (month - 1), daysInMonth year (m + 1)
      = if month ≤ 2 then 31 * (month - 1)
        else (153 * (month - 3) + 2) / 5 + if isLeap year then 60 else 59 := by
  interval_cases month <;> cases h : isLeap year <;>
    simp [Finset.sum_range_succ, daysInMonth, h]

/-- The days from the first of March of year 0 to the first of March of a year. -/
def daysToMarch (year : Nat) : Nat :=
  year / 400 * 146097 + (365 * (year % 400) + year % 400 / 4 - year % 400 / 100)

theorem dayNumber_eq (d : Date) :
    d.dayNumber = daysToMarch (if d.month ≤ 2 then d.year - 1 else d.year)
      + (153 * ((d.month + 9) % 12) + 2) / 5 + (d.day - 1) := rfl

theorem daysToMarch_add_eq_sum (year : Nat) :
    daysToMarch year + 366 = ∑ y ∈ Finset.range (year + 1), yearLength y := by
  have hsum := sum_yearLength (year + 1)
  have hsplit : year = 400 * (year / 400) + year % 400 := (Nat.div_add_mod ..).symm
  have hcycle : year % 400 < 400 := Nat.mod_lt _ (by decide)
  unfold daysToMarch
  generalize ∑ y ∈ Finset.range (year + 1), yearLength y = total at hsum ⊢
  generalize year / 400 = cycle at hsplit ⊢
  generalize year % 400 = rest at hsplit hcycle ⊢
  subst hsplit
  omega

/-- The number of a day is found by counting the days before, of which the first two months of year
0 have 60. -/
theorem daysBefore_eq {d : Date} (h : d.Exists) : d.daysBefore = d.dayNumber + 60 := by
  obtain ⟨hyear, hlow, hhigh, hday, _⟩ := h
  rw [daysBefore, dayNumber_eq, sum_daysInMonth hlow hhigh]
  by_cases hwinter : d.month ≤ 2
  · have hmarch := daysToMarch_add_eq_sum (d.year - 1)
    have hmonth : (d.month + 9) % 12 = d.month + 9 := Nat.mod_eq_of_lt (by omega)
    rw [Nat.sub_add_cancel hyear] at hmarch
    rw [if_pos hwinter, if_pos hwinter, hmonth, ← hmarch]
    omega
  · have hmarch := daysToMarch_add_eq_sum d.year
    have hmonth : (d.month + 9) % 12 = d.month - 3 := by omega
    rw [Finset.sum_range_succ, yearLength] at hmarch
    rw [if_neg hwinter, if_neg hwinter, hmonth]
    cases hleap : isLeap d.year
    · simp only [hleap, Bool.false_eq_true, if_false] at hmarch ⊢
      omega
    · simp only [hleap, if_true] at hmarch ⊢
      omega

theorem daysBefore_epoch : daysBefore ⟨1970, 1, 1⟩ = epoch + 60 :=
  daysBefore_eq (by decide)

example : dayNumber ⟨1970, 1, 1⟩ = epoch := by decide

/-! ### The date of a day -/

/-- The place of a day in a cycle: its century, the fourth year within the century, the year behind
that and the day of the year. -/
structure IsPlace (day century fourth year rest : Nat) : Prop where
  century_le : century ≤ 3
  fourth_le : fourth ≤ 24
  year_le : year ≤ 3
  rest_le : rest ≤ 365
  /-- Only years that end with a leap day have so many days. -/
  leap : rest = 365 → year = 3 ∧ (fourth = 24 → century = 3)
  sum : day = 36524 * century + 1461 * fourth + 365 * year + rest

theorem exists_isPlace {day : Nat} (h : day < 146097) :
    ∃ century fourth year rest, IsPlace day century fourth year rest := by
  have hcentury : ∃ century, century ≤ 3 ∧ 36524 * century ≤ day ∧
      (day < 36524 * (century + 1) ∨ century = 3 ∧ day = 146096) := by
    rcases Nat.lt_or_ge day 146096 with hlt | hlast
    · exact ⟨day / 36524, by omega, by omega, by omega⟩
    · exact ⟨3, by omega, by omega, by omega⟩
  obtain ⟨century, hcentury, hlow, hhigh⟩ := hcentury
  obtain ⟨ofCentury, rfl⟩ := Nat.exists_eq_add_of_le hlow
  have hyear : ∃ year, year ≤ 3 ∧ 365 * year ≤ ofCentury % 1461 ∧
      (ofCentury % 1461 < 365 * (year + 1) ∨ year = 3 ∧ ofCentury % 1461 = 1460) := by
    rcases Nat.lt_or_ge (ofCentury % 1461) 1460 with hlt | hlast
    · exact ⟨ofCentury % 1461 / 365, by omega, by omega, by omega⟩
    · exact ⟨3, by omega, by omega, by omega⟩
  obtain ⟨year, hyear, hfrom, hto⟩ := hyear
  refine ⟨century, ofCentury / 1461, year, ofCentury % 1461 - 365 * year, ?_⟩
  constructor <;> omega

/-- The last day of a cycle is counted in a century of its own. -/
theorem IsPlace.div_century {day century fourth year rest : Nat}
    (h : IsPlace day century fourth year rest) : day / 36524 = century + day / 146096 := by
  obtain ⟨hcentury, hfourth, hyear, hrest, hleap, hsum⟩ := h
  rcases Nat.lt_or_ge day 146096 with hlt | hlast
  · have hbound : day < 36524 * (century + 1) := by
      by_cases hfull : fourth = 24 ∧ rest = 365
      · have hlastCentury := (hleap hfull.2).2 hfull.1
        omega
      · omega
    rw [Nat.div_eq_of_lt hlt, Nat.add_zero]
    exact Nat.div_eq_of_lt_le (by omega) (by omega)
  · have hday : day = 146096 := by omega
    have hcentury' : century = 3 := by omega
    rw [hday, hcentury']

/-- The days of a fourth year are counted in the next one as soon as they make up 1460. -/
theorem IsPlace.exists_div_fourth {day century fourth year rest : Nat}
    (h : IsPlace day century fourth year rest) :
    ∃ carry, day / 1460 = 25 * century + fourth + carry ∧ carry ≤ rest ∧ rest ≤ 364 + carry := by
  obtain ⟨hcentury, hfourth, hyear, hrest, hleap, hsum⟩ := h
  have hfull : rest = 365 → year = 3 := fun h ↦ (hleap h).1
  clear hleap
  have hshift : day
      = 1460 * (25 * century + fourth) + (24 * century + fourth + 365 * year + rest) := by
    omega
  refine ⟨(24 * century + fourth + 365 * year + rest) / 1460, ?_, ?_⟩
  · rw [hshift, Nat.mul_add_div (by decide)]
  · clear hshift hsum
    omega

/-- The year of a day within its cycle. -/
theorem IsPlace.yearOfCycle {day century fourth year rest : Nat}
    (h : IsPlace day century fourth year rest) :
    (day - day / 1460 + day / 36524 - day / 146096) / 365 = 100 * century + 4 * fourth + year := by
  obtain ⟨carry, hfourths, hle, hrest⟩ := h.exists_div_fourth
  obtain ⟨behind, rfl⟩ := Nat.exists_eq_add_of_le hle
  have hbehind : behind < 365 := by omega
  have hday : day = (25 * century + fourth + carry)
      + (36499 * century + 1460 * fourth + 365 * year + behind) := by
    rw [h.sum]
    ring
  have hdays : 36499 * century + 1460 * fourth + 365 * year + behind + century
      = 365 * (100 * century + 4 * fourth + year) + behind := by
    ring
  rw [h.div_century, hfourths]
  generalize day / 146096 = last
  rw [hday, Nat.add_sub_cancel_left, ← Nat.add_assoc, Nat.add_sub_cancel, hdays,
    Nat.mul_add_div (by decide), Nat.div_eq_of_lt hbehind, Nat.add_zero]

/-- The fourth years and the centuries before the year of a day within its cycle. -/
theorem IsPlace.leapCounts {day century fourth year rest : Nat}
    (h : IsPlace day century fourth year rest) :
    (100 * century + 4 * fourth + year) / 4 = 25 * century + fourth ∧
      (100 * century + 4 * fourth + year) / 100 = century := by
  have hyear := h.year_le
  have hfourth := h.fourth_le
  omega

/-- The date of a day of a year that is counted in March. -/
def ofMarch (year dayOfYear : Nat) : Date :=
  let month := (5 * dayOfYear + 2) / 153
  { year := if month < 10 then year else year + 1
    month := if month < 10 then month + 3 else month - 9
    day := dayOfYear - (153 * month + 2) / 5 + 1 }

theorem ofDayNumber_eq {n century fourth year rest : Nat}
    (h : IsPlace (n % 146097) century fourth year rest) :
    ofDayNumber n = ofMarch (n / 146097 * 400 + (100 * century + 4 * fourth + year)) rest := by
  have hyear := h.yearOfCycle
  have hsum := h.sum
  obtain ⟨hfourths, hcenturies⟩ := h.leapCounts
  have hrestOf : n % 146097 - (365 * (100 * century + 4 * fourth + year)
      + (100 * century + 4 * fourth + year) / 4 - (100 * century + 4 * fourth + year) / 100)
      = rest := by
    rw [hfourths, hcenturies]
    omega
  unfold ofDayNumber ofMarch
  dsimp only
  rw [hyear, hrestOf]

theorem ofMarch_of_lt {year dayOfYear : Nat} (h : (5 * dayOfYear + 2) / 153 < 10) :
    ofMarch year dayOfYear = ⟨year, (5 * dayOfYear + 2) / 153 + 3,
      dayOfYear - (153 * ((5 * dayOfYear + 2) / 153) + 2) / 5 + 1⟩ := by
  unfold ofMarch
  simp only [if_pos h]

theorem ofMarch_of_le {year dayOfYear : Nat} (h : 10 ≤ (5 * dayOfYear + 2) / 153) :
    ofMarch year dayOfYear = ⟨year + 1, (5 * dayOfYear + 2) / 153 - 9,
      dayOfYear - (153 * ((5 * dayOfYear + 2) / 153) + 2) / 5 + 1⟩ := by
  unfold ofMarch
  simp only [if_neg (Nat.not_lt_of_le h)]

theorem dayNumber_ofMarch {year dayOfYear : Nat} (h : dayOfYear ≤ 365) :
    (ofMarch year dayOfYear).dayNumber = daysToMarch year + dayOfYear := by
  have hmonth : (5 * dayOfYear + 2) / 153 ≤ 11 := by omega
  have hstart : (153 * ((5 * dayOfYear + 2) / 153) + 2) / 5 ≤ dayOfYear := by omega
  rw [dayNumber_eq]
  rcases Nat.lt_or_ge ((5 * dayOfYear + 2) / 153) 10 with hlt | hle
  · rw [ofMarch_of_lt hlt]
    dsimp only
    generalize (5 * dayOfYear + 2) / 153 = month at hmonth hstart hlt ⊢
    have hshift : (month + 3 + 9) % 12 = month := by omega
    rw [if_neg (by omega), hshift]
    omega
  · rw [ofMarch_of_le hle]
    dsimp only
    generalize (5 * dayOfYear + 2) / 153 = month at hmonth hstart hle ⊢
    have hshift : (month - 9 + 9) % 12 = month := by omega
    rw [if_pos (by omega), hshift, Nat.add_sub_cancel]
    omega

theorem exists_ofMarch {year dayOfYear : Nat} (h : dayOfYear ≤ 365)
    (hleap : dayOfYear = 365 → isLeap (year + 1) = true) (hfirst : 1 ≤ year ∨ 306 ≤ dayOfYear) :
    (ofMarch year dayOfYear).Exists := by
  have hmonth : (5 * dayOfYear + 2) / 153 ≤ 11 := by omega
  have hlow : 153 * ((5 * dayOfYear + 2) / 153) ≤ 5 * dayOfYear + 2 := by omega
  have hhigh : 5 * dayOfYear + 2 < 153 * ((5 * dayOfYear + 2) / 153) + 153 := by omega
  have hlast : (5 * dayOfYear + 2) / 153 = 11 → dayOfYear ≤ 364 ∨ isLeap (year + 1) = true := by
    intro _
    rcases Nat.lt_or_ge dayOfYear 365 with hlt | hge
    · exact .inl (by omega)
    · exact .inr (hleap (by omega))
  rcases Nat.lt_or_ge ((5 * dayOfYear + 2) / 153) 10 with hlt | hle
  · rw [ofMarch_of_lt hlt]
    clear hlast
    unfold Exists
    dsimp only
    generalize (5 * dayOfYear + 2) / 153 = month at hlow hhigh hlt ⊢
    refine ⟨by omega, by omega, by omega, by omega, ?_⟩
    interval_cases month <;> simp [daysInMonth] <;> omega
  · rw [ofMarch_of_le hle]
    unfold Exists
    dsimp only
    generalize (5 * dayOfYear + 2) / 153 = month at hmonth hlow hhigh hle hlast ⊢
    refine ⟨by omega, by omega, by omega, by omega, ?_⟩
    interval_cases month
    case «10» =>
      simp [daysInMonth]
      omega
    case «11» =>
      rcases hlast rfl with hshort | hlong
      · cases hyear : isLeap (year + 1) <;> simp [daysInMonth, hyear] <;> omega
      · simp [daysInMonth, hlong]
        omega

/-- The date of a number has this number, and it exists from the first of January of year 1 on. -/
theorem ofDayNumber_spec (n : Nat) :
    (ofDayNumber n).dayNumber = n ∧ (306 ≤ n → (ofDayNumber n).Exists) := by
  obtain ⟨century, fourth, year, rest, hplace⟩ :=
    exists_isPlace (Nat.mod_lt n (show 0 < 146097 by decide))
  rw [ofDayNumber_eq hplace]
  obtain ⟨hfourths, hcenturies⟩ := hplace.leapCounts
  obtain ⟨hcentury, hfourth, hyear, hrest, hleap, hsum⟩ := hplace
  have hcycle : n = 146097 * (n / 146097) + n % 146097 := (Nat.div_add_mod ..).symm
  generalize n / 146097 = cycle at hcycle ⊢
  constructor
  · have hmarch : daysToMarch (cycle * 400 + (100 * century + 4 * fourth + year))
        = 146097 * cycle + (36524 * century + 1461 * fourth + 365 * year) := by
      have hdiv : (cycle * 400 + (100 * century + 4 * fourth + year)) / 400 = cycle := by omega
      have hmod : (cycle * 400 + (100 * century + 4 * fourth + year)) % 400
          = 100 * century + 4 * fourth + year := by omega
      rw [daysToMarch, hdiv, hmod, hfourths, hcenturies]
      omega
    rw [dayNumber_ofMarch hrest, hmarch]
    omega
  · intro hfrom
    apply exists_ofMarch hrest
    · intro hfull
      have hlast := hleap hfull
      apply isLeap_iff.mpr
      omega
    · omega

/-! ### The number of a date -/

/-- The year to which a date belongs if years begin in March. -/
def marchYear (d : Date) : Nat := if d.month ≤ 2 then d.year - 1 else d.year

/-- The number of months since March. -/
def marchMonth (d : Date) : Nat := (d.month + 9) % 12

/-- The number of days from the first of March to the first of a month, which is counted from
March. -/
def daysToMonth (month : Nat) : Nat := (153 * month + 2) / 5

theorem dayNumber_eq_march (d : Date) :
    d.dayNumber = daysToMarch d.marchYear + (daysToMonth d.marchMonth + (d.day - 1)) := by
  rw [← Nat.add_assoc]
  exact dayNumber_eq d

theorem daysToMarch_succ (year : Nat) :
    daysToMarch (year + 1) = daysToMarch year + yearLength (year + 1) := by
  have hnext := daysToMarch_add_eq_sum (year + 1)
  rw [Finset.sum_range_succ, ← daysToMarch_add_eq_sum year] at hnext
  omega

theorem daysToMarch_mono : Monotone daysToMarch :=
  monotone_nat_of_le_succ fun year ↦ by
    rw [daysToMarch_succ]
    exact Nat.le_add_right _ _

/-- A month ends before the next one begins, and February with its year. -/
theorem day_bounds {d : Date} (h : d.Exists) :
    (d.marchMonth < 11 → daysToMonth d.marchMonth + (d.day - 1) < daysToMonth (d.marchMonth + 1)) ∧
      daysToMonth d.marchMonth + (d.day - 1) < yearLength (d.marchYear + 1) := by
  obtain ⟨year, month, day⟩ := d
  obtain ⟨hyear, hlow, hhigh, hday, hlast⟩ := h
  dsimp only at hyear hlow hhigh hday hlast
  unfold daysToMonth marchMonth marchYear
  dsimp only
  by_cases hwinter : month ≤ 2
  · rw [if_pos hwinter, Nat.sub_add_cancel hyear, yearLength]
    interval_cases month <;> cases hleap : isLeap year <;>
      simp [daysInMonth, hleap] at hlast ⊢ <;> omega
  · have hlength : 365 ≤ yearLength (year + 1) := by
      unfold yearLength
      split <;> omega
    rw [if_neg hwinter]
    interval_cases month <;> simp [daysInMonth] at hlast hwinter ⊢ <;> omega

theorem marchYear_le_of_dayNumber_le {d e : Date} (he : e.Exists)
    (h : d.dayNumber ≤ e.dayNumber) : d.marchYear ≤ e.marchYear := by
  rw [dayNumber_eq_march, dayNumber_eq_march] at h
  apply Nat.le_of_not_lt
  intro hlt
  have hmono := daysToMarch_mono hlt
  have hyear := (day_bounds he).2
  rw [Nat.succ_eq_add_one, daysToMarch_succ] at hmono
  omega

theorem marchMonth_le_of_dayNumber_le {d e : Date} (he : e.Exists)
    (hyear : d.marchYear = e.marchYear) (h : d.dayNumber ≤ e.dayNumber) :
    d.marchMonth ≤ e.marchMonth := by
  rw [dayNumber_eq_march, dayNumber_eq_march, hyear] at h
  apply Nat.le_of_not_lt
  intro hlt
  have hbound : d.marchMonth < 12 := Nat.mod_lt _ (by decide)
  have hmonth := (day_bounds he).1 (by omega)
  unfold daysToMonth at h hmonth
  omega

/-- Dates are told apart by their numbers. -/
theorem dayNumber_injective {d e : Date} (hd : d.Exists) (he : e.Exists)
    (h : d.dayNumber = e.dayNumber) : d = e := by
  have hyear : d.marchYear = e.marchYear :=
    Nat.le_antisymm (marchYear_le_of_dayNumber_le he h.le) (marchYear_le_of_dayNumber_le hd h.ge)
  have hmonth : d.marchMonth = e.marchMonth :=
    Nat.le_antisymm (marchMonth_le_of_dayNumber_le he hyear h.le)
      (marchMonth_le_of_dayNumber_le hd hyear.symm h.ge)
  rw [dayNumber_eq_march, dayNumber_eq_march, hyear, hmonth] at h
  obtain ⟨year, month, day⟩ := d
  obtain ⟨year', month', day'⟩ := e
  obtain ⟨hyears, hlow, hhigh, hday, _⟩ := hd
  obtain ⟨hyears', hlow', hhigh', hday', _⟩ := he
  unfold marchYear at hyear
  unfold marchMonth at hmonth
  dsimp only at *
  have hmonths : month = month' := by omega
  have hdays : day = day' := by omega
  have hyears : year = year' := by
    rw [hmonths] at hyear
    split at hyear <;> omega
  rw [hyears, hmonths, hdays]

/-- The date of the number of a date is the date. -/
theorem ofDayNumber_dayNumber {d : Date} (h : d.Exists) : ofDayNumber d.dayNumber = d := by
  have hfirst : 306 ≤ d.dayNumber := by
    rw [dayNumber_eq_march]
    obtain ⟨hyear, hlow, _⟩ := h
    unfold marchYear
    by_cases hwinter : d.month ≤ 2
    · have hmonth : d.marchMonth = d.month + 9 := Nat.mod_eq_of_lt (by omega)
      unfold daysToMonth
      omega
    · have hmono : daysToMarch 1 ≤ daysToMarch d.year := daysToMarch_mono hyear
      rw [show daysToMarch 1 = 365 from rfl] at hmono
      rw [if_neg hwinter]
      omega
  obtain ⟨hnumber, hexists⟩ := ofDayNumber_spec d.dayNumber
  exact dayNumber_injective (hexists hfirst) h hnumber

example : ofDayNumber epoch = ⟨1970, 1, 1⟩ := by decide

end Date

end GrapheneSigner
