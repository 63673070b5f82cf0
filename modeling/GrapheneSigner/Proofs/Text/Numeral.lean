import Mathlib.Data.List.Induction
import Mathlib.Tactic.Ring
import GrapheneSigner.Text.DecimalDigit

/-!
# Decimal numerals read back

A row of ASCII digits stands for a number in the usual way, digit by digit.  The numeral of a number
is a row of digits that stands for it, and so is a numeral that was filled up with zeros; it has the
width asked for if the number is small enough.  There is no other row of digits of this width for
the number.
-/

namespace GrapheneSigner

namespace CodePoint

theorem val_digit {d : Nat} (h : d < 10) : (digit d).val = 0x30 + d :=
  val_ofNat (by omega)

theorem asciiDecimal?_digit {d : Nat} (h : d < 10) : (digit d).asciiDecimal? = some d := by
  rw [asciiDecimal?, val_digit h, if_pos (by omega), Nat.add_sub_cancel_left]

theorem asciiDecimal?_eq_some_iff {c : CodePoint} {d : Nat} :
    c.asciiDecimal? = some d ↔ d < 10 ∧ c = digit d := by
  constructor
  · intro h
    unfold asciiDecimal? at h
    split at h
    · cases h
      have hdigit : c.val - 0x30 < 10 := by omega
      refine ⟨hdigit, ext_iff.mpr ?_⟩
      rw [val_digit hdigit]
      omega
    · cases h
  · intro h
    rw [h.2, asciiDecimal?_digit h.1]

/-- ASCII digits are among the digits of all scripts, with the same value. -/
theorem decimal?_of_asciiDecimal? {c : CodePoint} {d : ℕ} (h : c.asciiDecimal? = some d) :
    c.decimal? = some d := by
  unfold asciiDecimal? at h
  unfold decimal?
  split at h
  · rename_i hc
    rw [if_pos (by omega), if_pos hc, h]
  · cases h

theorem decimal?_digit {d : Nat} (h : d < 10) : (digit d).decimal? = some d :=
  decimal?_of_asciiDecimal? (asciiDecimal?_digit h)

end CodePoint

namespace Text

/-- The number that is written by the digits of `acc` with a row of ASCII digits behind them. -/
def decimalFrom? (acc : Nat) : Text → Option Nat
  | [] => some acc
  | c :: rest => c.asciiDecimal?.bind fun d ↦ decimalFrom? (acc * 10 + d) rest

/-- The text consists of ASCII digits. -/
def OnlyDigits (t : Text) : Prop := ∀ c ∈ t, 0x30 ≤ c.val ∧ c.val ≤ 0x39

theorem decimalFrom?_append (acc : Nat) (s t : Text) :
    decimalFrom? acc (s ++ t) = (decimalFrom? acc s).bind fun n ↦ decimalFrom? n t := by
  induction s generalizing acc with
  | nil => rfl
  | cons c rest ih =>
    rw [List.cons_append, decimalFrom?, decimalFrom?]
    cases c.asciiDecimal? with
    | none => rfl
    | some d => exact ih _

theorem decimalFrom?_digit (acc : Nat) {d : Nat} (h : d < 10) :
    decimalFrom? acc [CodePoint.digit d] = some (acc * 10 + d) := by
  rw [decimalFrom?, CodePoint.asciiDecimal?_digit h]
  rfl

/-- The numeral of a number stands for it. -/
theorem decimalFrom?_ofNat (acc n : Nat) :
    decimalFrom? acc (ofNat n) = some (acc * 10 ^ (ofNat n).length + n) := by
  fun_induction ofNat n with
  | case1 n h => rw [decimalFrom?_digit acc h, List.length_singleton, pow_one]
  | case2 n h ih =>
    have hlast : n % 10 < 10 := Nat.mod_lt _ (by decide)
    rw [decimalFrom?_append, ih, Option.bind_some, decimalFrom?_digit _ hlast, List.length_append,
      List.length_singleton, pow_succ, Option.some.injEq]
    calc (acc * 10 ^ (ofNat (n / 10)).length + n / 10) * 10 + n % 10
        = acc * (10 ^ (ofNat (n / 10)).length * 10) + (n / 10 * 10 + n % 10) := by ring
      _ = acc * (10 ^ (ofNat (n / 10)).length * 10) + n := by rw [Nat.div_add_mod']

theorem decimalFrom?_replicate (acc k : Nat) :
    decimalFrom? acc (List.replicate k (CodePoint.digit 0)) = some (acc * 10 ^ k) := by
  induction k generalizing acc with
  | zero => rw [List.replicate_zero, decimalFrom?, pow_zero, mul_one]
  | succ k ih =>
    rw [List.replicate_succ, decimalFrom?, CodePoint.asciiDecimal?_digit (by decide),
      Option.bind_some, ih, pow_succ, Option.some.injEq]
    ring

theorem ofNatPadded_eq (width n : Nat) :
    ofNatPadded width n
      = List.replicate (width - (ofNat n).length) (CodePoint.digit 0) ++ ofNat n := rfl

/-- Zeros in front of a numeral do not change what it stands for. -/
theorem decimalFrom?_ofNatPadded (acc width n : Nat) :
    decimalFrom? acc (ofNatPadded width n)
      = some (acc * 10 ^ (ofNatPadded width n).length + n) := by
  rw [ofNatPadded_eq, decimalFrom?_append, decimalFrom?_replicate, Option.bind_some,
    decimalFrom?_ofNat, List.length_append, List.length_replicate, pow_add, mul_assoc]

theorem length_ofNat_le {width n : Nat} (hwidth : 0 < width) (h : n < 10 ^ width) :
    (ofNat n).length ≤ width := by
  fun_induction ofNat n generalizing width with
  | case1 n hn => exact hwidth
  | case2 n hn ih =>
    obtain ⟨more, rfl⟩ := Nat.exists_eq_succ_of_ne_zero (Nat.ne_of_gt hwidth)
    rw [pow_succ] at h
    have hmore : 0 < more := by
      rcases Nat.eq_zero_or_pos more with rfl | hpos
      · omega
      · exact hpos
    rw [List.length_append, List.length_singleton]
    exact Nat.succ_le_succ (ih hmore (by omega))

theorem lt_pow_length_ofNat (n : Nat) : n < 10 ^ (ofNat n).length := by
  fun_induction ofNat n with
  | case1 n h => rwa [List.length_singleton, pow_one]
  | case2 n h ih =>
    rw [List.length_append, List.length_singleton, pow_succ]
    omega

/-- A number needs no more digits than a width has if it is small enough for it. -/
theorem length_ofNat_le_iff {width n : Nat} (hwidth : 0 < width) :
    (ofNat n).length ≤ width ↔ n < 10 ^ width := by
  constructor
  · intro h
    exact (lt_pow_length_ofNat n).trans_le (Nat.pow_le_pow_right (by decide) h)
  · exact length_ofNat_le hwidth

theorem ofNat_ne_nil (n : Nat) : ofNat n ≠ [] := by
  unfold ofNat
  split <;> simp

/-- Only the numeral of zero begins with a zero. -/
theorem eq_zero_of_head?_ofNat {n : Nat} (h : (ofNat n).head? = some (CodePoint.digit 0)) :
    n = 0 := by
  fun_induction ofNat n with
  | case1 n hn =>
    have hdigit : CodePoint.digit n = CodePoint.digit 0 := Option.some_inj.mp h
    have hval := congrArg CodePoint.val hdigit
    rw [CodePoint.val_digit hn, CodePoint.val_digit (by decide)] at hval
    omega
  | case2 n hn ih =>
    have hfront : (ofNat (n / 10)).head? = some (CodePoint.digit 0) := by
      rw [List.head?_append, List.head?_eq_some_head (ofNat_ne_nil _), Option.some_or] at h
      rw [List.head?_eq_some_head (ofNat_ne_nil _), h]
    have hzero := ih hfront
    omega

/-- A numeral is filled up to the width asked for. -/
theorem length_ofNatPadded {width n : Nat} (hwidth : 0 < width) (h : n < 10 ^ width) :
    (ofNatPadded width n).length = width := by
  have hle := length_ofNat_le hwidth h
  rw [ofNatPadded_eq, List.length_append, List.length_replicate]
  omega

theorem onlyDigits_digit {d : Nat} (h : d < 10) : OnlyDigits [CodePoint.digit d] := by
  intro c hc
  rw [List.mem_singleton.mp hc, CodePoint.val_digit h]
  omega

theorem OnlyDigits.append {s t : Text} (hs : OnlyDigits s) (ht : OnlyDigits t) :
    OnlyDigits (s ++ t) :=
  fun c hc ↦ (List.mem_append.mp hc).elim (hs c) (ht c)

theorem onlyDigits_ofNat (n : Nat) : OnlyDigits (ofNat n) := by
  fun_induction ofNat n with
  | case1 n h => exact onlyDigits_digit h
  | case2 n h ih => exact ih.append (onlyDigits_digit (Nat.mod_lt _ (by decide)))

theorem onlyDigits_ofNatPadded (width n : Nat) : OnlyDigits (ofNatPadded width n) := by
  have hzeros : OnlyDigits (List.replicate (width - (ofNat n).length) (CodePoint.digit 0)) := by
    intro c hc
    rw [List.eq_of_mem_replicate hc]
    decide
  rw [ofNatPadded_eq]
  exact hzeros.append (onlyDigits_ofNat n)

/-- What is no digit is in no numeral. -/
theorem OnlyDigits.not_mem {t : Text} (h : OnlyDigits t) {c : CodePoint}
    (hc : c.val < 0x30 ∨ 0x39 < c.val) : c ∉ t := by
  intro hmem
  have hdigit := h c hmem
  omega

/-! ### Rows of digits -/

/-- The last digit of a numeral that was filled up. -/
theorem ofNatPadded_succ {width : Nat} (hwidth : 0 < width) (n : Nat) :
    ofNatPadded (width + 1) n = ofNatPadded width (n / 10) ++ [CodePoint.digit (n % 10)] := by
  rw [ofNatPadded_eq, ofNatPadded_eq, ofNat]
  by_cases hn : n < 10
  · have hdiv : n / 10 = 0 := Nat.div_eq_of_lt hn
    have hzero : ofNat 0 = [CodePoint.digit 0] := by
      rw [ofNat, if_pos (by decide)]
    have hmod : n % 10 = n := Nat.mod_eq_of_lt hn
    obtain ⟨rest, rfl⟩ := Nat.exists_eq_succ_of_ne_zero (Nat.ne_of_gt hwidth)
    rw [if_pos hn, hdiv, hzero, hmod, List.length_singleton, List.length_singleton,
      Nat.add_sub_cancel, Nat.succ_sub_one, ← List.replicate_succ']
  · rw [if_neg hn, List.length_append, List.length_singleton, Nat.add_sub_add_right,
      List.append_assoc]

theorem ofNatPadded_one {n : Nat} (h : n < 10) : ofNatPadded 1 n = [CodePoint.digit n] := by
  rw [ofNatPadded_eq, Text.ofNat, if_pos h]
  rfl

theorem ofNatPadded_two {n : Nat} (h : n < 100) :
    ofNatPadded 2 n = [CodePoint.digit (n / 10), CodePoint.digit (n % 10)] := by
  rw [ofNatPadded_succ (by decide), ofNatPadded_one (by omega)]
  rfl

theorem ofNatPadded_four {n : Nat} (h : n < 10000) :
    ofNatPadded 4 n = [CodePoint.digit (n / 10 / 10 / 10), CodePoint.digit (n / 10 / 10 % 10),
      CodePoint.digit (n / 10 % 10), CodePoint.digit (n % 10)] := by
  rw [ofNatPadded_succ (by decide), ofNatPadded_succ (by decide),
    ofNatPadded_two (by omega)]
  rfl

/-- A row of digits is the numeral of its number, filled up to the length of the row. -/
theorem eq_ofNatPadded_of_decimalFrom? {t : Text} {n : Nat} (hne : t ≠ [])
    (h : decimalFrom? 0 t = some n) : t = ofNatPadded t.length n ∧ n < 10 ^ t.length := by
  induction t using List.reverseRecOn generalizing n with
  | nil => exact absurd rfl hne
  | append_singleton front c ih =>
    rw [decimalFrom?_append] at h
    obtain ⟨m, hfront, hlast⟩ := Option.bind_eq_some_iff.mp h
    obtain ⟨d, hd, hn⟩ := Option.bind_eq_some_iff.mp hlast
    obtain ⟨hdigit, rfl⟩ := CodePoint.asciiDecimal?_eq_some_iff.mp hd
    cases hn
    rw [List.length_append, List.length_singleton]
    by_cases hnil : front = []
    · subst hnil
      cases hfront
      have hnumeral : ofNat d = [CodePoint.digit d] := by
        rw [ofNat, if_pos hdigit]
      rw [ofNatPadded_eq, zero_mul, zero_add, hnumeral]
      exact ⟨rfl, by simpa using hdigit⟩
    · obtain ⟨hrow, hbound⟩ := ih hnil hfront
      have hdiv : (m * 10 + d) / 10 = m := by omega
      have hmod : (m * 10 + d) % 10 = d := by omega
      rw [ofNatPadded_succ (List.length_pos_iff.mpr hnil), hdiv, hmod, ← hrow, pow_succ]
      exact ⟨rfl, by omega⟩

end Text

end GrapheneSigner
