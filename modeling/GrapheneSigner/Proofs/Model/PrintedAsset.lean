import GrapheneSigner.Proofs.Model.WrittenAmount

/-!
# Printed assets

The printed form of an asset is one among the many texts that are read as assets: a minus sign
stands in front of a negative amount and nothing in front of another, there are no superfluous zeros
and no underscores before the point, and behind it there are as many digits as the symbol has
decimal places.  The written form of every asset is like this, and a printed form is read as a
decimal number.  So printing and reading gives an asset back, as long as its amount has no more
digits than a numeral may have.
-/

namespace GrapheneSigner

namespace Numeral

theorem isDigit_of_onlyDigits {t : Text} (h : t.OnlyDigits) : ∀ c ∈ t, IsDigit c := by
  intro c hc
  have hrange : 0x30 ≤ c.val ∧ c.val < 0x3A := by
    have := h c hc
    omega
  have hvalue : c.asciiDecimal? = some (c.val - 0x30) := if_pos hrange
  exact isDigit_of_decimal? (CodePoint.decimal?_of_asciiDecimal? hvalue)

/-- A row of ASCII digits stands for the same number in the wide grammar. -/
theorem valueFrom_of_decimalFrom? {t : Text} {acc n : ℕ} (h : Text.decimalFrom? acc t = some n) :
    valueFrom acc t = n := by
  induction t generalizing acc with
  | nil => exact Option.some_inj.mp h
  | cons c rest ih =>
    obtain ⟨d, hd, hrest⟩ := Option.bind_eq_some_iff.mp h
    have hvalue := ih hrest
    rw [valueFrom, List.foldl_cons, CodePoint.decimal?_of_asciiDecimal? hd]
    exact hvalue

theorem isBlank_of_isDigit {c : CodePoint} (h : IsDigit c) : c.isBlank = false := by
  have hlow := val_of_isDigit h
  rw [CodePoint.isBlank, isWhite_of_isDigit h, Bool.false_or, Bool.and_eq_false_iff,
    decide_eq_false_iff_not, decide_eq_false_iff_not]
  omega

end Numeral

namespace Asset

/-- The sign in front of a negative amount. -/
def minus : CodePoint := .ofNat 0x2D

/-- The parts of a printed asset: digits without superfluous zeros in front of the point, as many
digits as the symbol has decimal places behind it, and whether a minus sign stands before all. -/
structure Printed where
  symbol : AssetSymbol
  negative : Bool
  whole : Text
  fraction : Text
  whole_ne_nil : whole ≠ []
  onlyDigits_whole : whole.OnlyDigits
  /-- Only a lone zero begins with a zero. -/
  eq_zero_of_head? : whole.head? = some (CodePoint.digit 0) → whole = [CodePoint.digit 0]
  onlyDigits_fraction : fraction.OnlyDigits
  length_fraction : fraction.length = symbol.precision

namespace Printed

/-- The printed form: the amount, and the symbol behind a space. -/
def text (p : Printed) : Text :=
  (if p.negative then [minus] else []) ++ p.whole ++ point :: p.fraction ++ space :: p.symbol.name

/-! ## Reading a printed form -/

/-- The decimal number of a printed form. -/
def decimal (p : Printed) : Decimal where
  sign := if p.negative then .minus else .none
  groups := [p.whole]
  fraction := p.fraction
  isGroup := by
    intro g hg
    rw [List.mem_singleton.mp hg]
    exact ⟨p.whole_ne_nil, Numeral.isDigit_of_onlyDigits p.onlyDigits_whole⟩
  isDigit := Numeral.isDigit_of_onlyDigits p.onlyDigits_fraction

theorem isMinus_decimal (p : Printed) : p.decimal.sign.isMinus = p.negative := by
  unfold decimal
  cases p.negative <;> rfl

theorem digits_decimal (p : Printed) : p.decimal.digits = p.whole ++ p.fraction := by
  rw [Decimal.digits, decimal, List.flatten_singleton]

theorem text_decimal (p : Printed) : p.decimal.text p.symbol = p.text := by
  have hsign : p.decimal.sign.text = if p.negative then [minus] else [] := by
    unfold decimal
    cases p.negative <;> rfl
  rw [Decimal.text, Decimal.whole, hsign]
  rfl

/-- There are no blanks around a printed form. -/
theorem trim_text (p : Printed) : p.text.trim CodePoint.isBlank = p.text := by
  apply Text.trim_eq_self
  · obtain ⟨first, rest, hwhole⟩ := List.exists_cons_of_ne_nil p.whole_ne_nil
    have hfirst : first.isBlank = false := by
      apply Numeral.isBlank_of_isDigit
      apply Numeral.isDigit_of_onlyDigits p.onlyDigits_whole
      rw [hwhole]
      exact List.mem_cons_self
    intro c hc
    rw [text, hwhole] at hc
    cases hneg : p.negative with
    | true =>
      rw [hneg] at hc
      cases hc
      decide
    | false =>
      rw [hneg] at hc
      cases hc
      exact hfirst
  · obtain ⟨last, hlast, hblank⟩ : ∃ last,
        (space :: p.symbol.name).getLast? = some last ∧ last.isBlank = false := by
      cases p.symbol <;> exact ⟨_, rfl, by decide⟩
    intro c hc
    rw [text, List.getLast?_append, hlast, Option.some_or] at hc
    cases hc
    exact hblank

/-- A printed form of not too many digits is read as the number that the digits make up. -/
theorem ofValue_text_eq_ok_iff (p : Printed) {a : Asset} :
    ofValue (.chars p.text) = .ok a ↔ p.whole.length + p.fraction.length ≤ Numeral.digitLimit ∧
      a = ⟨Numeral.signed p.negative (Numeral.value (p.whole ++ p.fraction)), p.symbol⟩ := by
  have hparts : p.text.trim CodePoint.isBlank = p.decimal.text p.symbol := by
    rw [trim_text, text_decimal]
  have hne : p.decimal.fraction ≠ [] := (p.decimal.parts _ hparts).fraction_ne_nil p.length_fraction
  have hread := p.decimal.read_eq_ok_iff hne (i := a.amount)
  rw [Decimal.number_mul, Int.cast_inj, digits_decimal, isMinus_decimal,
    List.length_append] at hread
  rw [ofValue_chars_eq_ok_iff, read_eq_ok_iff]
  constructor
  · intro h
    obtain ⟨q, hsymbol, _, hq⟩ := h
    rw [q.eq (p.decimal.parts _ hparts)] at hsymbol hq
    obtain ⟨hlimit, hamount⟩ := hread.mp hq
    refine ⟨hlimit, ?_⟩
    rw [← hamount]
    cases a
    cases hsymbol
    rfl
  · intro h
    obtain ⟨hlimit, hasset⟩ := h
    exact ⟨p.decimal.parts _ hparts, by rw [hasset]; rfl, p.length_fraction,
      hread.mpr ⟨hlimit, congrArg amount hasset⟩⟩

end Printed

/-! ## Printing an asset -/

def printed (a : Asset) : Printed where
  symbol := a.symbol
  negative := decide (a.amount < 0)
  whole := Text.ofNat (a.amount.natAbs / 10 ^ a.precision)
  fraction := Text.ofNatPadded a.precision (a.amount.natAbs % 10 ^ a.precision)
  whole_ne_nil := Text.ofNat_ne_nil _
  onlyDigits_whole := Text.onlyDigits_ofNat _
  eq_zero_of_head? := by
    intro h
    rw [Text.eq_zero_of_head?_ofNat h, Text.ofNat]
    exact if_pos (by decide)
  onlyDigits_fraction := Text.onlyDigits_ofNatPadded _ _
  length_fraction := Text.length_ofNatPadded a.symbol.precision_pos
    (Nat.mod_lt _ (Nat.pow_pos (by decide)))

theorem text_printed (a : Asset) : a.printed.text = a.write := by
  have hspace : lit " " = [space] := rfl
  rw [write, writeAmount_eq, magnitude, hspace, Printed.text, printed]
  simp only [decide_eq_true_iff, List.append_assoc, List.cons_append, List.nil_append]
  rfl

/-- Before and behind the point there are at most as many digits as a numeral may have exactly if
the amount has no more of them. -/
theorem length_printed_le_iff (a : Asset) :
    a.printed.whole.length + a.printed.fraction.length ≤ Numeral.digitLimit ↔
      a.amount.natAbs < 10 ^ Numeral.digitLimit := by
  have hplaces : a.precision < Numeral.digitLimit := by
    unfold precision
    cases a.symbol <;> decide
  obtain ⟨rest, hrest⟩ := Nat.exists_eq_add_of_lt hplaces
  have hlimit : Numeral.digitLimit = rest + 1 + a.precision := by omega
  rw [a.printed.length_fraction, hlimit, pow_add]
  calc a.printed.whole.length + a.precision ≤ rest + 1 + a.precision
      ↔ a.printed.whole.length ≤ rest + 1 := Nat.add_le_add_iff_right
    _ ↔ a.amount.natAbs / 10 ^ a.precision < 10 ^ (rest + 1) :=
      Text.length_ofNat_le_iff (Nat.succ_pos rest)
    _ ↔ a.amount.natAbs < 10 ^ (rest + 1) * 10 ^ a.precision :=
      Nat.div_lt_iff_lt_mul (Nat.pow_pos (by decide))

/-- The digits of a printed amount make up the amount. -/
theorem decimalFrom?_printed (a : Asset) :
    Text.decimalFrom? 0 (a.printed.whole ++ a.printed.fraction) = some a.amount.natAbs :=
  decimalFrom?_magnitude a.symbol.precision_pos _

/-- Printing and reading is the identity on the amounts that a numeral has room for.  The written
form of an asset always is the printed one, behind a minus sign exactly if the amount is negative,
and with the digits of the amount; and an asset that a numeral has room for is printed like this. -/
theorem printed_and_read_back_iff (a : Asset) :
    (∃ p : Printed, a.write = p.text ∧ p.symbol = a.symbol ∧
      p.negative = decide (a.amount < 0) ∧
      Text.decimalFrom? 0 (p.whole ++ p.fraction) = some a.amount.natAbs) ∧
    (ofValue (.chars a.write) = .ok a ↔ a.amount.natAbs < 10 ^ Numeral.digitLimit) ∧
    (a.amount.natAbs < 10 ^ Numeral.digitLimit → a.print = .ok a.write) := by
  have hasset : a = ⟨Numeral.signed a.printed.negative
      (Numeral.value (a.printed.whole ++ a.printed.fraction)), a.printed.symbol⟩ := by
    have hamount : Numeral.signed (decide (a.amount < 0)) a.amount.natAbs = a.amount :=
      Numeral.signed_natAbs a.amount
    rw [Numeral.value, Numeral.valueFrom_of_decimalFrom? a.decimalFrom?_printed]
    cases a
    exact congrArg₂ Asset.mk hamount.symm rfl
  refine ⟨⟨a.printed, a.text_printed.symm, rfl, rfl, a.decimalFrom?_printed⟩, ?_, ?_⟩
  · rw [← a.text_printed, Printed.ofValue_text_eq_ok_iff, length_printed_le_iff]
    exact and_iff_left hasset
  · intro h
    have hpow (n : ℕ) : Nat.pow 10 n = 10 ^ n := rfl
    apply print_of_isWritable
    rwa [Numeral.isWritable_iff, hpow]

/-- A negative amount below one unit keeps its sign in front of the zero. -/
example : write ⟨-5, .liquid⟩ = lit "-0.005 STEEM" := by decide +kernel

end Asset

end GrapheneSigner
