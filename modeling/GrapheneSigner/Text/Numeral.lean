import GrapheneSigner.Text.Blank
import GrapheneSigner.Text.DecimalDigit
import GrapheneSigner.Text.Quoted

/-!
# Integer numerals

Two grammars of integers occur.  The wide one reads amounts: white space around, one sign, digits
of any script with single underscores between them.  The narrow one reads integer fields: ASCII
digits behind an optional minus sign, without superfluous zeros.  A field that is no such numeral
is tidied and read once more; tidying removes what people write around a number, namely white
space, a plus sign, zeros in front, a fraction of zeros and single underscores.

The number of digits is limited, for reading and for writing.
-/

namespace GrapheneSigner

namespace Numeral

/-- Digits with single underscores between them.  `after` is true when the text begins behind a
digit, where an underscore or the end may stand; the result is the value with `acc` in front. -/
def digitsFrom? (value? : CodePoint → Option Nat) (after : Bool) (acc : Nat) : Text → Option Nat
  | [] => if after then some acc else none
  | c :: rest =>
    match value? c with
    | some d => digitsFrom? value? true (acc * 10 + d) rest
    | none => if after && c.val == 0x5F then digitsFrom? value? false acc rest else none

/-- The value of at least one digit, with single underscores between digits. -/
def digits? (value? : CodePoint → Option Nat) (t : Text) : Option Nat :=
  digitsFrom? value? false 0 t

/-- Underscores and what `value?` takes for a digit, at the beginning of a text. -/
def run (value? : CodePoint → Option Nat) (t : Text) : Text :=
  t.takeWhile fun c ↦ (value? c).isSome || c.val == 0x5F

/-- A text without its sign, and whether the sign was a minus. -/
def cutSign : Text → Bool × Text
  | [] => (false, [])
  | c :: rest =>
    if c.val = 0x2B then (false, rest)
    else if c.val = 0x2D then (true, rest)
    else (false, c :: rest)

/-- A magnitude with its sign. -/
def signed (negative : Bool) (n : Nat) : Int := if negative then -(n : Int) else n

/-- Numerals have at most this many digits. -/
def digitLimit : Nat := 4300

-- The bound has thousands of digits, so that nothing should be evaluated that compares with it.
/-- Integers of more digits than a numeral may have are not written. -/
@[irreducible]
def isWritable (i : Int) : Bool := i.natAbs < Nat.pow 10 digitLimit

theorem isWritable_iff {i : Int} : isWritable i = true ↔ i.natAbs < Nat.pow 10 digitLimit := by
  unfold isWritable
  exact decide_eq_true_iff

theorem isWritable_eq_false_iff {i : Int} :
    isWritable i = false ↔ Nat.pow 10 digitLimit ≤ i.natAbs := by
  rw [← Bool.not_eq_true, isWritable_iff, Nat.not_lt]

/-- The least natural number without numeral. -/
theorem isWritable_pow : isWritable (Nat.pow 10 digitLimit : Nat) = false :=
  isWritable_eq_false_iff.mpr (Nat.le_of_eq (Int.natAbs_natCast _).symm)

/-- Integers of 64 bits have numerals. -/
theorem isWritable_of_lt {i : Int} (h : i.natAbs < 0x10000000000000000) : isWritable i = true := by
  have hle {n : Nat} (hn : 20 ≤ n) : Nat.pow 10 20 ≤ Nat.pow 10 n :=
    Nat.pow_le_pow_right (by decide) hn
  have hbits : i.natAbs < Nat.pow 10 20 := Nat.lt_trans h (by decide)
  exact isWritable_iff.mpr (Nat.lt_of_lt_of_le hbits (hle (by decide)))

/-- The message about an integer that is not written.  Unlike `tooManyDigits` it does not say how
many digits there are. -/
def overlong : Text :=
  lit "Exceeds the limit (4300 digits) for integer string conversion; "
    ++ lit "use sys.set_int_max_str_digits() to increase the limit"

/-- The numeral of an integer, or why there is none. -/
def write (i : Int) : Except Text Text :=
  if isWritable i then .ok (Text.ofInt i) else .error overlong

def digitCount (t : Text) : Nat := t.countP fun c ↦ c.decimal?.isSome

/-- The message about a text that is no numeral quotes at most 200 code points. -/
def notANumeral (t : Text) : Text :=
  lit "invalid literal for int() with base 10: " ++ t.quoted.take 200

/-- The message about a numeral of `n` digits, which are too many. -/
def tooManyDigits (n : Nat) : Text :=
  lit "Exceeds the limit (4300 digits) for integer string conversion: value has "
    ++ Text.ofNat n ++ lit " digits; use sys.set_int_max_str_digits() to increase the limit"

/-- Reads a numeral of the wide grammar, or says why the text is none.  The digits are counted
before anything behind them is looked at. -/
def read (t : Text) : Except Text Int :=
  let (negative, body) := cutSign (t.trim CodePoint.isWhite)
  let digits := run CodePoint.decimal? body
  match digits? CodePoint.decimal? digits with
  | none => .error (notANumeral t)
  | some n =>
    if digitLimit < digitCount digits then .error (tooManyDigits (digitCount digits))
    else if digits.length = body.length then .ok (signed negative n)
    else .error (notANumeral t)

/-- A text without a minus sign in front, and whether there was one. -/
def cutMinus : Text → Bool × Text
  | [] => (false, [])
  | c :: rest => if c.val = 0x2D then (true, rest) else (false, c :: rest)

/-- The narrow grammar: digits behind an optional minus sign, of which only a lone zero begins
with zero. -/
def plain? (t : Text) : Option Int :=
  let (negative, digits) := cutMinus t
  if digits.head? = some (CodePoint.digit 0) ∧ 1 < digits.length then none
  else
    match digits.mapM CodePoint.asciiDecimal? with
    | none | some [] => none
    | some ds => some (signed negative (ds.foldl (· * 10 + ·) 0))

/-- Behind an optional minus sign, the text begins with more digits than a numeral may have, and
the first of them is not zero. -/
def isOverlong (t : Text) : Bool :=
  let digits := (cutMinus t).2.takeWhile fun c ↦ c.asciiDecimal?.isSome
  digitLimit < digits.length && digits.head? != some (CodePoint.digit 0)

/-- The remainder of a text behind zeros and underscores, where the last of them, `last`, is kept
if a point or nothing follows.  Otherwise a digit or a minus sign has to follow. -/
def dropZerosFrom? (last : CodePoint) : Text → Option Text
  | [] => some [last]
  | c :: rest =>
    if c.val = 0x30 ∨ c.val = 0x5F then dropZerosFrom? c rest
    else if c.asciiDecimal?.isSome ∨ c.val = 0x2D then some (c :: rest)
    else if c.val = 0x2E then some (last :: c :: rest)
    else none

/-- A text that begins with a digit or a minus sign, without superfluous zeros in front. -/
def dropZeros? : Text → Option Text
  | [] => none
  | c :: rest =>
    if c.val = 0x30 then dropZerosFrom? c rest
    else if c.asciiDecimal?.isSome ∨ c.val = 0x2D then some (c :: rest)
    else none

/-- A text without its first point, if at least one zero and nothing else follows it. -/
def dropZeroFraction (t : Text) : Text :=
  let (whole, zeros) := t.cutAt (.ofNat 0x2E)
  if zeros ≠ [] ∧ zeros.all (·.val == 0x30) then whole else t

/-- No underscore stands at an end or beside another. -/
def hasSingleUnderscores (t : Text) : Bool := (t.splitOn (.ofNat 0x5F)).all (· ≠ [])

/-- A text without its underscores, if they are single ones. -/
def dropUnderscores (t : Text) : Text :=
  if hasSingleUnderscores t then t.filter (·.val != 0x5F) else t

/-- A text without the plus sign in front, which no minus sign may follow. -/
def dropPlus? (t : Text) : Option Text :=
  if t.head? = some (.ofNat 0x2B) then
    if t.tail.head? = some (.ofNat 0x2D) then none else some t.tail
  else some t

/-- Zeros in front are dropped behind a minus sign as well. -/
def dropSignedZeros? (t : Text) : Option Text :=
  match cutMinus t with
  | (true, rest) => (dropZeros? rest).map (.ofNat 0x2D :: ·)
  | (false, rest) => dropZeros? rest

/-- Removes what may be written around a numeral of the narrow grammar. -/
def tidied? (t : Text) : Option Text :=
  (dropPlus? (t.trim CodePoint.isWhite)).bind fun u ↦
    (dropSignedZeros? u).map fun v ↦ dropUnderscores (dropZeroFraction v)

/-- Reads an integer field: a numeral of the narrow grammar, possibly after tidying, of at most
`digitLimit` digits. -/
def readField? (t : Text) : Option Int :=
  (plain? t).or ((tidied? t).bind fun u ↦ if isOverlong u then none else plain? u)

end Numeral

end GrapheneSigner
