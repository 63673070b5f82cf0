import Mathlib.Algebra.Field.Rat
import Mathlib.Algebra.Order.Ring.Int
import GrapheneSigner.Intake.Model
import GrapheneSigner.Proofs.Model.Asset
import GrapheneSigner.Proofs.Text.WideNumeral

/-!
# Amounts that are read

The text of an asset is taken apart at its space, and its amount at the first point.  Behind the
point there have to be as many characters as the symbol has decimal places.  The number of smallest
units is then read from the two parts of the amount as one numeral.

Where the characters behind the point are digits, and no underscore stands before the point, the
amount is a decimal number and it is read exactly.  Numerals have more spellings than digits,
however: an underscore, a sign or white space behind the point belongs to some of them and takes up
a decimal place, so that these amounts are read as other numbers than a reader of decimal numbers
would expect.
-/

namespace GrapheneSigner

namespace AssetSymbol

theorem ofName?_eq_some_iff {t : Text} {s : AssetSymbol} : ofName? t = some s ↔ t = s.name := by
  constructor
  · intro h
    unfold ofName? at h
    have hname := List.find?_some h
    exact (of_decide_eq_true hname).symm
  · intro h
    rw [h, ofName?_name]

theorem name_injective {s u : AssetSymbol} (h : s.name = u.name) : s = u := by
  rw [← Option.some_inj, ← ofName?_name s, h, ofName?_name]

end AssetSymbol

namespace Asset

/-! ## The parts of a text -/

/-- The parts of a written asset.  Without the blanks around it, the text is an amount and the name
of a symbol with one space between them; the amount is cut at its first point. -/
structure Parts (t : Text) where
  whole : Text
  fraction : Text
  symbol : AssetSymbol
  text_eq : t.trim CodePoint.isBlank = whole ++ point :: fraction ++ space :: symbol.name
  point_not_mem : point ∉ whole
  space_not_mem : space ∉ whole ++ point :: fraction

namespace Parts

variable {t : Text}

theorem splitOn_eq (p : Parts t) : Text.splitOn space (t.trim CodePoint.isBlank)
    = [p.whole ++ point :: p.fraction, p.symbol.name] :=
  Text.splitOn_eq_pair_iff.mpr ⟨p.text_eq, p.space_not_mem, p.symbol.space_not_mem_name⟩

theorem cutAt_eq (p : Parts t) :
    Text.cutAt point (p.whole ++ point :: p.fraction) = (p.whole, p.fraction) :=
  Text.cutAt_append p.point_not_mem p.fraction

/-- A text is taken apart in one way. -/
theorem eq (p q : Parts t) : p = q := by
  have hsplit : [p.whole ++ point :: p.fraction, p.symbol.name]
      = [q.whole ++ point :: q.fraction, q.symbol.name] := p.splitOn_eq.symm.trans q.splitOn_eq
  simp only [List.cons.injEq, and_true] at hsplit
  obtain ⟨hamount, hname⟩ := hsplit
  have hcut : (p.whole, p.fraction) = (q.whole, q.fraction) := by
    rw [← p.cutAt_eq, hamount, q.cutAt_eq]
  have hsymbol : p.symbol = q.symbol := AssetSymbol.name_injective hname
  cases p
  cases q
  cases hcut
  cases hsymbol
  rfl

/-- Behind the point stand only digits, and no underscore stands right before it. -/
def IsPlain (p : Parts t) : Prop :=
  (∀ c ∈ p.fraction, Numeral.IsDigit c) ∧ p.whole.getLast? ≠ some Numeral.underscore

theorem fraction_ne_nil {p : Parts t} (h : p.fraction.length = p.symbol.precision) :
    p.fraction ≠ [] := by
  have hpos := p.symbol.precision_pos
  intro hnil
  rw [hnil, List.length_nil] at h
  omega

end Parts

variable {t : Text} {a : Asset}

/-- An asset is read if the part behind the point has the right length and the two parts of the
amount are a numeral. -/
theorem read_eq_ok_iff : read t = .ok a ↔ ∃ p : Parts t, p.symbol = a.symbol ∧
    p.fraction.length = p.symbol.precision ∧ Numeral.read (p.whole ++ p.fraction) = .ok a.amount := by
  constructor
  · intro h
    unfold read at h
    split at h
    · rename_i amount name hsplit
      split at h
      · rename_i symbol hsymbol
        obtain ⟨htext, hspace, _⟩ := Text.splitOn_eq_pair_iff.mp hsplit
        by_cases hpoint : point ∈ amount
        · obtain ⟨whole, fraction, rfl, hwhole⟩ := List.eq_append_cons_of_mem hpoint
          rw [Text.cutAt_append hwhole] at h
          dsimp only at h
          split at h
          · rename_i hlength
            rw [AssetSymbol.ofName?_eq_some_iff.mp hsymbol] at htext
            cases hread : Numeral.read (whole ++ fraction) with
            | error message =>
              rw [hread] at h
              cases h
            | ok i =>
              rw [hread] at h
              cases h
              exact ⟨⟨whole, fraction, symbol, htext, hwhole, hspace⟩, rfl, hlength, hread⟩
          · cases h
        -- without a point nothing is behind it, and every symbol has decimal places
        · have hpos := symbol.precision_pos
          rw [Text.cutAt_of_not_mem hpoint] at h
          dsimp only [List.length_nil] at h
          rw [if_neg (by omega)] at h
          cases h
      · cases h
    · cases h
  · intro h
    obtain ⟨p, hsymbol, hlength, hread⟩ := h
    unfold read
    rw [p.splitOn_eq]
    dsimp only
    rw [AssetSymbol.ofName?_name, p.cutAt_eq]
    dsimp only
    rw [if_pos hlength, hread, hsymbol]
    rfl

theorem ofValue_chars_eq_ok_iff : ofValue (.chars t) = .ok a ↔ read t = .ok a := by
  rw [ofValue]
  cases read t with
  | ok b => simp [Except.mapError]
  | error message => simp [Except.mapError]

/-! ## Decimal numbers -/

/-- A decimal number: an optional sign, groups of digits with single underscores between them or no
digits, a point, and digits. -/
structure Decimal where
  sign : Numeral.Sign
  groups : List Text
  fraction : Text
  isGroup : ∀ g ∈ groups, Numeral.IsGroup g
  isDigit : ∀ c ∈ fraction, Numeral.IsDigit c

namespace Decimal

/-- What stands before the point. -/
def whole (d : Decimal) : Text := d.sign.text ++ Text.join [Numeral.underscore] d.groups

def digits (d : Decimal) : Text := d.groups.flatten ++ d.fraction

/-- The number without its sign. -/
def magnitude (d : Decimal) : ℚ :=
  Numeral.value d.groups.flatten + Numeral.value d.fraction / 10 ^ d.fraction.length

/-- The number that is written. -/
def number (d : Decimal) : ℚ := if d.sign.isMinus then -d.magnitude else d.magnitude

/-- A decimal number and a symbol with a space between them. -/
def text (d : Decimal) (symbol : AssetSymbol) : Text :=
  d.whole ++ point :: d.fraction ++ space :: symbol.name

/-- Moving the point behind all digits gives the number that the digits make up. -/
theorem number_mul (d : Decimal) :
    d.number * 10 ^ d.fraction.length
      = (Numeral.signed d.sign.isMinus (Numeral.value d.digits) : ℤ) := by
  have hpow : (10 : ℚ) ^ d.fraction.length ≠ 0 := pow_ne_zero _ (by decide)
  have hmagnitude : d.magnitude * 10 ^ d.fraction.length = (Numeral.value d.digits : ℕ) := by
    rw [magnitude, add_mul, div_mul_cancel₀ _ hpow, digits, Numeral.value_append]
    push_cast
    rfl
  unfold number Numeral.signed
  split
  · rw [neg_mul, hmagnitude, Int.cast_neg, Int.cast_natCast]
  · rw [hmagnitude, Int.cast_natCast]

/-- With its digits put together, a decimal number is the spelling of an integer. -/
theorem exists_spelling (d : Decimal) (h : d.fraction ≠ []) : ∃ s : Numeral.Spelling,
    s.text = d.whole ++ d.fraction ∧ s.sign = d.sign ∧ s.digits = d.digits := by
  obtain ⟨glued, hne, hglued, hjoin, hflatten⟩ :=
    Numeral.exists_groups_append d.isGroup ⟨h, d.isDigit⟩
  refine ⟨⟨[], d.sign, glued, [], by simp, hne, hglued, by simp⟩, ?_, rfl, hflatten⟩
  rw [Numeral.Spelling.text, hjoin, List.nil_append, List.append_nil, whole, List.append_assoc]

/-- A decimal number is read exactly, unless it has too many digits. -/
theorem read_eq_ok_iff (d : Decimal) (h : d.fraction ≠ []) {i : ℤ} :
    Numeral.read (d.whole ++ d.fraction) = .ok i ↔
      d.digits.length ≤ Numeral.digitLimit ∧ (i : ℚ) = d.number * 10 ^ d.fraction.length := by
  obtain ⟨s, htext, hsign, hdigits⟩ := d.exists_spelling h
  rw [← htext, s.read_eq_ok_iff, d.number_mul, Int.cast_inj, Numeral.Spelling.value, hsign, hdigits]

theorem isWhite_of_mem_whole {d : Decimal} {c : CodePoint} (h : c ∈ d.whole) :
    c.isWhite = false := by
  rcases List.mem_append.mp h with h | h
  · exact Numeral.isWhite_of_mem_sign h
  · exact Numeral.isWhite_of_mem_join d.isGroup h

theorem point_not_mem_whole (d : Decimal) : point ∉ d.whole := by
  have hsign : point ∉ d.sign.text := by cases d.sign <;> decide
  intro h
  rcases List.mem_append.mp h with h | h
  · exact hsign h
  · rcases Numeral.eq_or_isDigit_of_mem_join d.isGroup h with h | h
    · exact absurd h (by decide)
    · exact absurd (Numeral.val_of_isDigit h) (by decide)

theorem space_not_mem (d : Decimal) : space ∉ d.whole ++ point :: d.fraction := by
  have hspace : space.isWhite ≠ false := by decide
  rw [List.mem_append, List.mem_cons, not_or, not_or]
  exact ⟨fun h ↦ hspace (isWhite_of_mem_whole h), by decide,
    fun h ↦ hspace (Numeral.isWhite_of_isDigit (d.isDigit _ h))⟩

/-- The parts of a text that is a decimal number and a symbol. -/
def parts (d : Decimal) (symbol : AssetSymbol) (h : t.trim CodePoint.isBlank = d.text symbol) :
    Parts t :=
  ⟨d.whole, d.fraction, symbol, h, d.point_not_mem_whole, d.space_not_mem⟩

theorem getLast?_whole (d : Decimal) : d.whole.getLast? ≠ some Numeral.underscore := by
  rw [whole, List.getLast?_append]
  intro h
  rcases Option.or_eq_some_iff.mp h with h | ⟨_, h⟩
  · exact Numeral.not_isDigit_underscore (Numeral.getLast?_join d.isGroup h)
  · have hsign : Numeral.underscore ∉ d.sign.text := by cases d.sign <;> decide
    exact hsign (List.mem_of_getLast? h)

end Decimal

/-! ## Plain parts -/

/-- A sign in front of a row that ends with digits belongs to what stands before the digits. -/
theorem exists_eq_sign_append {sign : Numeral.Sign} {whole fraction body : Text}
    (hdigits : ∀ c ∈ fraction, Numeral.IsDigit c)
    (h : whole ++ fraction = sign.text ++ body) :
    ∃ front, whole = sign.text ++ front ∧ front ++ fraction = body := by
  rcases List.append_eq_append_iff.mp h with ⟨back, hsign, hfraction⟩ | ⟨front, hwhole, hbody⟩
  · cases back with
    | nil => exact ⟨[], by simpa using hsign.symm, hfraction⟩
    | cons c rest =>
      have hc : c ∈ sign.text := by rw [hsign]; simp
      exact absurd (hdigits c (by rw [hfraction]; simp)) (Numeral.not_isDigit_of_mem_sign hc)
  · exact ⟨front, hwhole, hbody.symm⟩

/-- A text begins with no blank once it is trimmed, so that its amount does not either. -/
theorem Parts.isWhite_of_head? (p : Parts t) {c : CodePoint} (h : p.whole.head? = some c) :
    c.isWhite = false := by
  have hblank : c.isBlank = false := by
    apply Text.head?_trim (t := t)
    rw [p.text_eq, List.append_assoc, List.head?_append, h, Option.some_or]
  rw [CodePoint.isBlank, Bool.or_eq_false_iff] at hblank
  exact hblank.1

/-- Plain parts that are read as a numeral are those of a decimal number. -/
theorem Parts.exists_decimal {p : Parts t} {i : ℤ} (hplain : p.IsPlain) (hne : p.fraction ≠ [])
    (hread : Numeral.read (p.whole ++ p.fraction) = .ok i) :
    ∃ d : Decimal, d.whole = p.whole ∧ d.fraction = p.fraction := by
  obtain ⟨s, htext, -, -⟩ := Numeral.read_eq_ok_iff.mp hread
  -- a spelling may have white space around it, but not this one: the text was trimmed in front and
  -- ends with a digit
  have htrim : (p.whole ++ p.fraction).trim CodePoint.isWhite = p.whole ++ p.fraction := by
    apply Text.trim_eq_self
    · intro c hc
      rw [List.head?_append] at hc
      rcases Option.or_eq_some_iff.mp hc with hc | ⟨_, hc⟩
      · exact p.isWhite_of_head? hc
      · exact Numeral.isWhite_of_isDigit (hplain.1 c (List.mem_of_head? hc))
    · intro c hc
      rw [List.getLast?_append, List.getLast?_eq_some_getLast hne, Option.some_or] at hc
      cases hc
      exact Numeral.isWhite_of_isDigit (hplain.1 _ (List.getLast_mem hne))
  have hsign : p.whole ++ p.fraction
      = s.sign.text ++ Text.join [Numeral.underscore] s.groups := by
    rw [← htrim, htext, s.trim_text]
  obtain ⟨front, hwhole, hjoin⟩ := exists_eq_sign_append hplain.1 hsign
  have hlast : front.getLast? ≠ some Numeral.underscore := by
    intro hlast
    refine hplain.2 ?_
    rw [hwhole, List.getLast?_append, hlast, Option.some_or]
  obtain ⟨groups, hgroups, hfront⟩ :=
    Numeral.exists_groups_of_append s.groups_ne_nil s.isGroup hjoin hplain.1 hlast
  have hdecimal : s.sign.text ++ Text.join [Numeral.underscore] groups = p.whole := by
    rw [hwhole, hfront]
  exact ⟨⟨s.sign, groups, p.fraction, hgroups, hplain.1⟩, hdecimal, rfl⟩

theorem Parts.isPlain_of_decimal {p : Parts t} {d : Decimal} (hwhole : d.whole = p.whole)
    (hfraction : d.fraction = p.fraction) : p.IsPlain := by
  refine ⟨fun c hc ↦ d.isDigit c (hfraction ▸ hc), ?_⟩
  rw [← hwhole]
  exact d.getLast?_whole

/-! ## Reading as decimal numbers -/

/-- What is read has the spelling of a numeral behind it. -/
theorem ofValue_chars_eq_ok_iff_spelling : ofValue (.chars t) = .ok a ↔
    ∃ p : Parts t, p.symbol = a.symbol ∧ p.fraction.length = p.symbol.precision ∧
      ∃ s : Numeral.Spelling, p.whole ++ p.fraction = s.text ∧
        s.digits.length ≤ Numeral.digitLimit ∧ a.amount = s.value := by
  rw [ofValue_chars_eq_ok_iff, read_eq_ok_iff]
  simp only [Numeral.read_eq_ok_iff]

/-- The parts of what is read are plain exactly if they are those of a decimal number, and the asset
then has as many units as the number says. -/
theorem isPlain_iff_of_ofValue (h : ofValue (.chars t) = .ok a) (p : Parts t) :
    p.IsPlain ↔ ∃ d : Decimal, d.whole = p.whole ∧ d.fraction = p.fraction ∧
      (a.amount : ℚ) = d.number * 10 ^ a.precision := by
  obtain ⟨q, hsymbol, hlength, hread⟩ := read_eq_ok_iff.mp (ofValue_chars_eq_ok_iff.mp h)
  rw [q.eq p] at hsymbol hlength hread
  have hne : p.fraction ≠ [] := Parts.fraction_ne_nil hlength
  constructor
  · intro hplain
    obtain ⟨d, hwhole, hfraction⟩ := Parts.exists_decimal hplain hne hread
    rw [← hwhole, ← hfraction, d.read_eq_ok_iff (hfraction ▸ hne)] at hread
    refine ⟨d, hwhole, hfraction, ?_⟩
    rw [hread.2, hfraction, hlength, hsymbol, precision]
  · intro hdecimal
    obtain ⟨d, hwhole, hfraction, _⟩ := hdecimal
    exact Parts.isPlain_of_decimal hwhole hfraction

/-- A decimal number with as many places as its symbol asks for is read exactly. -/
theorem ofValue_of_decimal {d : Decimal} {symbol : AssetSymbol}
    (htext : t.trim CodePoint.isBlank = d.text symbol)
    (hlength : d.fraction.length = symbol.precision)
    (hlimit : d.digits.length ≤ Numeral.digitLimit) :
    ∃ a, ofValue (.chars t) = .ok a ∧ a.symbol = symbol ∧
      (a.amount : ℚ) = d.number * 10 ^ symbol.precision := by
  have hne : d.fraction ≠ [] := (d.parts symbol htext).fraction_ne_nil hlength
  have hread := (d.read_eq_ok_iff hne).mpr ⟨hlimit, d.number_mul.symm⟩
  refine ⟨⟨Numeral.signed d.sign.isMinus (Numeral.value d.digits), symbol⟩, ?_, rfl, ?_⟩
  · exact ofValue_chars_eq_ok_iff.mpr
      (read_eq_ok_iff.mpr ⟨d.parts symbol htext, rfl, hlength, hread⟩)
  · rw [← hlength, d.number_mul]

/-- What is no written asset is refused as a bad value. -/
theorem exists_badValue (h : ∀ a, ofValue (.chars t) ≠ .ok a) :
    ∃ message, ofValue (.chars t) = .error (.badValue message) := by
  cases hread : read t with
  | ok a => exact absurd (ofValue_chars_eq_ok_iff.mpr hread) (h a)
  | error message => exact ⟨message, by rw [ofValue, hread]; rfl⟩

/-- Amounts are read exactly where they are decimal numbers.  A text is read if it has parts of which
the one behind the point has as many characters as the symbol has places, and that spell a numeral
of not too many digits together.  What is read has plain parts if and only if they are those of a
decimal number, with which the amount agrees.  Every text of a decimal number and a symbol of as
many places is read, and what is not read is refused as a bad value. -/
theorem read_exactly_iff_plain (t : Text) :
    (∀ a, ofValue (.chars t) = .ok a ↔
      ∃ p : Parts t, p.symbol = a.symbol ∧ p.fraction.length = p.symbol.precision ∧
        ∃ s : Numeral.Spelling, p.whole ++ p.fraction = s.text ∧
          s.digits.length ≤ Numeral.digitLimit ∧ a.amount = s.value) ∧
    (∀ a, ofValue (.chars t) = .ok a → ∀ p : Parts t,
      p.IsPlain ↔ ∃ d : Decimal, d.whole = p.whole ∧ d.fraction = p.fraction ∧
        (a.amount : ℚ) = d.number * 10 ^ a.precision) ∧
    (∀ (d : Decimal) (symbol : AssetSymbol), t.trim CodePoint.isBlank = d.text symbol →
      d.fraction.length = symbol.precision → d.digits.length ≤ Numeral.digitLimit →
        ∃ a, ofValue (.chars t) = .ok a ∧ a.symbol = symbol ∧
          (a.amount : ℚ) = d.number * 10 ^ symbol.precision) ∧
    ((∀ a, ofValue (.chars t) ≠ .ok a) →
      ∃ message, ofValue (.chars t) = .error (.badValue message)) :=
  ⟨fun _ ↦ ofValue_chars_eq_ok_iff_spelling, fun _ ↦ isPlain_iff_of_ofValue,
    fun _ _ ↦ ofValue_of_decimal, exists_badValue⟩

/-- A negative amount with grouped digits and a blank in front is read exactly, and an amount with
two places is refused. -/
theorem read_exactly_iff_plain_grouped :
    let t := lit " -1_234.567 STEEM"
    (∃ (d : Decimal) (h : t.trim CodePoint.isBlank = d.text .liquid),
      d.number = -(1234 + 567 / 1000) ∧ (d.parts .liquid h).IsPlain ∧
        ∃ a, ofValue (.chars t) = .ok a ∧ (a.amount : ℚ) = d.number * 10 ^ 3) ∧
    ∃ message, ofValue (.chars (lit "1.00 STEEM")) = .error (.badValue message) := by
  intro t
  let d : Decimal := ⟨.minus, [lit "1", lit "234"], lit "567",
    by unfold Numeral.IsGroup Numeral.IsDigit; decide, by unfold Numeral.IsDigit; decide⟩
  have htext : t.trim CodePoint.isBlank = d.text .liquid := by decide
  have hnumber : d.number = -(1234 + 567 / 1000) := by
    have hwhole : Numeral.value d.groups.flatten = 1234 := by decide
    have hfraction : Numeral.value d.fraction = 567 := by decide
    have hminus : d.sign.isMinus = true := rfl
    have hlength : d.fraction.length = 3 := rfl
    rw [Decimal.number, if_pos hminus, Decimal.magnitude, hwhole, hfraction, hlength]
    norm_num
  obtain ⟨-, hplain, hread, -⟩ := read_exactly_iff_plain t
  obtain ⟨a, hok, hsymbol, hamount⟩ := hread d .liquid htext rfl (by decide)
  refine ⟨⟨d, htext, hnumber, ?_, a, hok, hamount⟩, ?_⟩
  · refine (hplain a hok _).mpr ⟨d, rfl, rfl, ?_⟩
    rw [hamount, precision, hsymbol]
  · exact (read_exactly_iff_plain (lit "1.00 STEEM")).2.2.2 (by intro a h; cases h)

/-- An underscore behind the point takes up a place: a tenth is read from a text that belongs to no
decimal number. -/
theorem exists_misread_underscore :
    let t := lit "1.0_0 STEEM"
    ofValue (.chars t) = .ok ⟨100, .liquid⟩ ∧
      ∀ (d : Decimal) (symbol : AssetSymbol), t.trim CodePoint.isBlank ≠ d.text symbol := by
  intro t
  constructor
  · rfl
  · intro d symbol htext
    let p : Parts t := ⟨lit "1", lit "0_0", .liquid, by decide, by decide, by decide⟩
    have hfraction : d.fraction = lit "0_0" := congrArg Parts.fraction ((d.parts symbol htext).eq p)
    have hmem : Numeral.underscore ∈ d.fraction := by
      rw [hfraction]
      decide
    exact Numeral.not_isDigit_underscore (d.isDigit _ hmem)

end Asset

end GrapheneSigner
