import GrapheneSigner.Intake.Model
import GrapheneSigner.Proofs.Calendar.Reading
import GrapheneSigner.Proofs.Calendar.WholeSeconds
import GrapheneSigner.Proofs.Text.Blank

/-!
# Time stamps and seconds

The grammar by which time stamps are read has several readings of most texts.  On the time stamp of
proper parts the preferred reading of each part is the part itself, since all parts have their full
width, and so the first reading of the whole is the right one.  With this, time stamps and the
seconds up to the end of the year 9999 correspond one to one.
-/

namespace GrapheneSigner

namespace Timestamp

/-! ## Preferred readings -/

/-- At the front of any text, the preferred reading of a part is the number `n` for `front`. -/
def Prefers (part : Text → Readings) (front : Text) (n : Nat) : Prop :=
  ∀ rest, (part (front ++ rest)).head? = some (n, rest)

/-- At the front of any text, the preferred reading of parts in order is `ns` for `front`. -/
def PrefersAll (parts : List (Text → Readings)) (front : Text) (ns : List Nat) : Prop :=
  ∀ rest, (inOrder parts (front ++ rest)).head? = some (ns, rest)

theorem prefersAll_nil : PrefersAll [] [] [] := fun _ ↦ rfl

/-- The first part is read before the others. -/
theorem Prefers.cons {part : Text → Readings} {parts : List (Text → Readings)} {s t : Text}
    {n : Nat} {ns : List Nat} (hfirst : Prefers part s n) (hrest : PrefersAll parts t ns) :
    PrefersAll (part :: parts) (s ++ t) (n :: ns) := by
  intro rest
  have hpart := hfirst (t ++ rest)
  have hparts := hrest rest
  rw [List.append_assoc, inOrder]
  cases hreadings : part (s ++ (t ++ rest)) with
  | nil =>
    rw [hreadings] at hpart
    cases hpart
  | cons reading more =>
    rw [hreadings, List.head?_cons, Option.some_inj] at hpart
    rw [hpart, List.flatMap_cons, List.head?_append, List.head?_map, hparts]
    rfl

theorem Prefers.behind {part : Text → Readings} {t : Text} {n : Nat} {separator : List Nat}
    {c : CodePoint} (h : Prefers part t n) (hc : separator.contains c.val = true) :
    Prefers (Timestamp.behind separator part) (c :: t) n := by
  intro rest
  rw [List.cons_append, Timestamp.behind, if_pos hc]
  exact h rest

/-! ## The parts of a time stamp -/

theorem between_digit (low high : Nat) {d : Nat} (h : d < 10) :
    between low high (CodePoint.digit d) = if low ≤ d ∧ d ≤ high then some d else none := by
  have hval : 0x30 + low ≤ 0x30 + d ∧ 0x30 + d ≤ 0x30 + high ↔ low ≤ d ∧ d ≤ high := by omega
  rw [between, CodePoint.val_digit h, Nat.add_sub_cancel_left]
  simp only [hval]

section Two

variable {n : Nat} (low high : Nat) (rest : Text)

theorem two_between (h : n < 100) (low' high' : Nat) :
    two (between low high) (between low' high') (Text.ofNatPadded 2 n ++ rest)
      = if (low ≤ n / 10 ∧ n / 10 ≤ high) ∧ low' ≤ n % 10 ∧ n % 10 ≤ high' then [(n, rest)]
        else [] := by
  rw [Text.ofNatPadded_two h, List.cons_append, List.cons_append, two,
    between_digit low high (by omega), between_digit low' high' (by omega)]
  by_cases htens : low ≤ n / 10 ∧ n / 10 ≤ high
  · rw [if_pos htens]
    by_cases hones : low' ≤ n % 10 ∧ n % 10 ≤ high'
    · rw [if_pos hones, if_pos ⟨htens, hones⟩]
      dsimp only
      rw [Nat.div_add_mod, List.nil_append]
    · rw [if_neg hones, if_neg fun hboth ↦ hones hboth.2]
  · simp only [htens, false_and, if_false]

theorem two_decimal (h : n < 100) :
    two (between low high) CodePoint.decimal? (Text.ofNatPadded 2 n ++ rest)
      = if low ≤ n / 10 ∧ n / 10 ≤ high then [(n, rest)] else [] := by
  rw [Text.ofNatPadded_two h, List.cons_append, List.cons_append, two,
    between_digit low high (by omega), CodePoint.decimal?_digit (by omega)]
  by_cases htens : low ≤ n / 10 ∧ n / 10 ≤ high
  · rw [if_pos htens, if_pos htens]
    dsimp only
    rw [Nat.div_add_mod, List.nil_append]
  · rw [if_neg htens, if_neg htens]

end Two

theorem prefers_year {n : Nat} (h : n ≤ 9999) : Prefers year (Text.ofNatPadded 4 n) n := by
  intro rest
  have hvalue : 1000 * (n / 10 / 10 / 10) + 100 * (n / 10 / 10 % 10) + 10 * (n / 10 % 10) + n % 10
      = n := by omega
  rw [Text.ofNatPadded_four (by omega)]
  simp only [List.cons_append, List.nil_append, year]
  rw [CodePoint.decimal?_digit (by omega), CodePoint.decimal?_digit (by omega),
    CodePoint.decimal?_digit (by omega), CodePoint.decimal?_digit (by omega)]
  dsimp only
  rw [hvalue, List.head?_cons]

theorem prefers_month {n : Nat} (hlow : 1 ≤ n) (hhigh : n ≤ 12) :
    Prefers month (Text.ofNatPadded 2 n) n := by
  intro rest
  rw [month, two_between _ _ _ (by omega), two_between _ _ _ (by omega)]
  rcases Nat.lt_or_ge n 10 with hlt | hge
  · rw [if_neg (by omega), if_pos (by omega)]
    rfl
  · rw [if_pos (by omega)]
    rfl

theorem prefers_day {n : Nat} (hlow : 1 ≤ n) (hhigh : n ≤ 31) :
    Prefers day (Text.ofNatPadded 2 n) n := by
  intro rest
  rw [day, two_between _ _ _ (by omega), two_decimal _ _ _ (by omega),
    two_between _ _ _ (by omega)]
  rcases Nat.lt_or_ge n 10 with hlt | hge
  · rw [if_neg (by omega), if_neg (by omega), if_pos (by omega)]
    rfl
  rcases Nat.lt_or_ge n 30 with hlt | hge
  · rw [if_neg (by omega), if_pos (by omega)]
    rfl
  · rw [if_pos (by omega)]
    rfl

theorem prefers_hour {n : Nat} (h : n < 24) : Prefers hour (Text.ofNatPadded 2 n) n := by
  intro rest
  rw [hour, two_between _ _ _ (by omega), two_decimal _ _ _ (by omega)]
  rcases Nat.lt_or_ge n 20 with hlt | hge
  · rw [if_neg (by omega), if_pos (by omega)]
    rfl
  · rw [if_pos (by omega)]
    rfl

theorem prefers_minute {n : Nat} (h : n < 60) : Prefers minute (Text.ofNatPadded 2 n) n := by
  intro rest
  rw [minute, two_decimal _ _ _ (by omega), if_pos (by omega)]
  rfl

/-- The two seconds beyond a minute are not among these. -/
theorem prefers_second {n : Nat} (h : n < 60) : Prefers second (Text.ofNatPadded 2 n) n := by
  intro rest
  rw [second, two_between _ _ _ (by omega), two_decimal _ _ _ (by omega), if_neg (by omega),
    if_pos (by omega)]
  rfl

/-- On a time stamp of proper parts the grammar prefers these parts. -/
theorem prefersAll_write {p : Parts} (h : p.IsProper) : PrefersAll grammar p.write
    [p.date.year, p.date.month, p.date.day, p.hour, p.minute, p.second] := by
  obtain ⟨_, hmonth, hmonth', hday, hlast⟩ := h.exists_date
  have hday' : p.date.day ≤ 31 := hlast.trans (daysInMonth_le _ _)
  have hdash : lit "-" = [.ofNat 0x2D] := rfl
  have hletter : lit "T" = [.ofNat 0x54] := rfl
  have hcolon : lit ":" = [.ofNat 0x3A] := rfl
  have hwrite : p.write = Text.ofNatPadded 4 p.date.year
      ++ ((.ofNat 0x2D :: Text.ofNatPadded 2 p.date.month)
      ++ ((.ofNat 0x2D :: Text.ofNatPadded 2 p.date.day)
      ++ ((.ofNat 0x54 :: Text.ofNatPadded 2 p.hour)
      ++ ((.ofNat 0x3A :: Text.ofNatPadded 2 p.minute)
      ++ ((.ofNat 0x3A :: Text.ofNatPadded 2 p.second) ++ []))))) := by
    rw [p.write_eq]
    simp only [Text.join, List.append_assoc, List.cons_append, List.nil_append, List.append_nil]
  rw [hwrite]
  apply (prefers_year h.year_le).cons
  apply ((prefers_month hmonth hmonth').behind (by decide)).cons
  apply ((prefers_day hday hday').behind (by decide)).cons
  apply ((prefers_hour h.hour_lt).behind (by decide)).cons
  apply ((prefers_minute h.minute_lt).behind (by decide)).cons
  apply ((prefers_second h.second_lt).behind (by decide)).cons
  exact prefersAll_nil

/-- A time stamp of proper parts is read as the seconds of these parts. -/
theorem read_write {p : Parts} (h : p.IsProper) : read p.write = .ok p.seconds := by
  have hfront : readPrefix? p.write = some (p, []) := by
    have hpreferred := prefersAll_write h []
    rw [List.append_nil] at hpreferred
    unfold readPrefix?
    cases hreadings : inOrder grammar p.write with
    | nil =>
      rw [hreadings] at hpreferred
      cases hpreferred
    | cons reading more =>
      rw [hreadings, List.head?_cons, Option.some_inj] at hpreferred
      rw [hpreferred]
      rfl
  have hyear : p.date.year ≠ 0 := Nat.ne_of_gt h.exists_date.1
  have hsecond : ¬ 60 ≤ p.second := Nat.not_le_of_lt h.second_lt
  unfold read
  rw [hfront]
  dsimp only
  rw [if_neg (by simp), if_neg hyear, if_neg (not_not_intro h.exists_date), if_neg hsecond]

end Timestamp

namespace TimePoint

/-- The letters behind a time stamp are taken off, and nothing else. -/
theorem trimEnd_write {p : Timestamp.Parts} (h : p.IsProper) (k : Nat) :
    (p.write ++ List.replicate k zulu).trimEnd (· = zulu) = p.write := by
  have hlast : p.write.getLast? = some (CodePoint.digit (p.second % 10)) := by
    rw [Timestamp.Parts.write, Text.ofNatPadded_two (h.second_lt.trans (by decide)),
      List.getLast?_append]
    rfl
  rw [Text.trimEnd_append fun c hc ↦ decide_eq_true (List.eq_of_mem_replicate hc)]
  apply Text.trimEnd_eq_self
  intro c hc
  rw [hlast, Option.some_inj] at hc
  subst hc
  apply decide_eq_false
  intro hzulu
  have hval : (CodePoint.digit (p.second % 10)).val = 0x5A := congrArg CodePoint.val hzulu
  rw [CodePoint.val_digit (Nat.mod_lt _ (by decide))] at hval
  omega

/-- A text that stands for seconds is read as these, with any number of letters behind it. -/
theorem run_ofSeconds_chars {text : Text} {s : Nat} (h : Timestamp.iso? text = some s) (k : Nat) :
    (ofSeconds (.chars (text ++ List.replicate k zulu))).run = .ok ⟨s⟩ := by
  obtain ⟨p, hproper, rfl, hseconds⟩ := Timestamp.exists_of_iso? h
  have hle : s ≤ lastStamped := (Timestamp.iso?_eq_some_iff.mp h).1
  have hbound : (s : Int).natAbs < Binary64.mantissaBound :=
    Nat.lt_of_le_of_lt hle (by decide)
  have hread : secondsOf (.chars (p.write ++ List.replicate k zulu)) = secondsOf (.int s) := by
    unfold secondsOf
    dsimp only
    rw [trimEnd_write hproper, Timestamp.read_write hproper, hseconds, Reading.ofExcept,
      Reading.andThen, wholeSeconds_mul hbound]
  have hint : (ofSeconds (.int s)).run = .ok ⟨s⟩ := ofInt_eq_ok_iff.mpr rfl
  rw [ofSeconds, hread, ← ofSeconds, hint]

/-- Seconds and time stamps correspond one to one.  All seconds up to the end of the year 9999 have
a time stamp, which stands for them and is read as them, with any number of letters Z behind it.
All texts that stand for seconds are read as these and are their time stamp.  Later seconds have no
time stamp. -/
theorem stamps_and_seconds :
    (∀ s ≤ lastStamped, ∃ text, (TimePoint.mk s).stamp = .ok text ∧
      Timestamp.iso? text = some s ∧
      ∀ k, (ofSeconds (.chars (text ++ List.replicate k zulu))).run = .ok ⟨s⟩) ∧
    (∀ text s, Timestamp.iso? text = some s →
      (ofSeconds (.chars text)).run = .ok ⟨s⟩ ∧ (TimePoint.mk s).stamp = .ok text) ∧
    ∀ s, lastStamped < s → ∃ failure, (TimePoint.mk s).stamp = .error failure := by
  refine ⟨?_, ?_, ?_⟩
  · intro s hs
    have hiso := Timestamp.iso?_ofSeconds hs
    exact ⟨_, stamp_eq hs, hiso, run_ofSeconds_chars hiso⟩
  · intro text s hiso
    obtain ⟨hs, htext⟩ := Timestamp.iso?_eq_some_iff.mp hiso
    have hrun := run_ofSeconds_chars hiso 0
    rw [List.replicate_zero, List.append_nil] at hrun
    exact ⟨hrun, htext ▸ stamp_eq hs⟩
  · intro s hs
    exact exists_stamp_error hs

/-- The last second of a leap day, the last second with a time stamp, and the one behind it. -/
theorem stamps_and_seconds_leap_day :
    Timestamp.iso? (lit "2000-02-29T23:59:59") = some 951868799 ∧
      (TimePoint.mk 951868799).stamp = .ok (lit "2000-02-29T23:59:59") ∧
      (∃ text, (TimePoint.mk lastStamped).stamp = .ok text ∧
        (ofSeconds (.chars (text ++ lit "ZZ"))).run = .ok ⟨lastStamped⟩) ∧
      ∃ failure, (TimePoint.mk (lastStamped + 1)).stamp = .error failure := by
  have hiso : Timestamp.iso? (lit "2000-02-29T23:59:59") = some 951868799 := by decide +kernel
  obtain ⟨hstamps, hseconds, hlate⟩ := stamps_and_seconds
  obtain ⟨text, hstamp, -, hread⟩ := hstamps lastStamped le_rfl
  exact ⟨hiso, (hseconds _ _ hiso).2, ⟨text, hstamp, hread 2⟩, hlate _ (Nat.lt_succ_self _)⟩

end TimePoint

end GrapheneSigner
