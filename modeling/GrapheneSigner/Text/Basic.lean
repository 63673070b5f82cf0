/-!
# Texts

A text is a finite sequence of code points.  The surrogate code points U+D800 to U+DFFF are
allowed in it, because callers may hand in such texts and the library has to say what it does
with them; this is why a text is not a `String`.  The module holds the two elementary types,
decimal numerals, and the few list operations that the formats of the library are made of.
-/

namespace GrapheneSigner

/-- A code point, surrogates included. -/
structure CodePoint where
  /-- The number of the code point. -/
  val : Nat
  /-- Code points end at U+10FFFF. -/
  val_lt : val < 0x110000
  deriving DecidableEq

/-- A text is the list of its code points. -/
abbrev Text := List CodePoint

abbrev Bytes := List UInt8

namespace CodePoint

/-- The code point of number `n`; a number that is too large gives the replacement character. -/
def ofNat (n : Nat) : CodePoint :=
  if h : n < 0x110000 then ⟨n, h⟩ else ⟨0xFFFD, by decide⟩

theorem val_ofNat {n : Nat} (h : n < 0x110000) : (ofNat n).val = n := by
  simp [ofNat, h]

theorem ext_iff {a b : CodePoint} : a = b ↔ a.val = b.val := by
  cases a; cases b; simp

def ofChar (c : Char) : CodePoint :=
  ⟨c.toNat, by
    have h := c.valid
    simp only [UInt32.isValidChar, Nat.isValidChar] at h
    have h' : c.toNat = c.val.toNat := rfl
    omega⟩

/-- Surrogates are the code points that no UTF-8 text holds. -/
def isSurrogate (c : CodePoint) : Bool := 0xD800 ≤ c.val && c.val ≤ 0xDFFF

/-- The digit of value `d`, for `d` below ten. -/
def digit (d : Nat) : CodePoint := ofNat (0x30 + d)

/-- The lower case hexadecimal digit of value `d`, for `d` below sixteen. -/
def hexDigit (d : Nat) : CodePoint :=
  if d < 10 then digit d else ofNat (0x61 + (d - 10))

/-- ASCII letters are lowered and every other code point is kept. -/
def asciiLower (c : CodePoint) : CodePoint :=
  if 0x41 ≤ c.val ∧ c.val ≤ 0x5A then ofNat (c.val + 0x20) else c

end CodePoint

/-- The text of a string. -/
def lit (s : String) : Text := s.toList.map CodePoint.ofChar

namespace Text

/-- The decimal numeral of `n`, without superfluous zeros. -/
def ofNat (n : Nat) : Text :=
  if n < 10 then [CodePoint.digit n] else ofNat (n / 10) ++ [CodePoint.digit (n % 10)]
termination_by n
decreasing_by omega

/-- The decimal numeral of an integer; a minus sign stands before a negative one. -/
def ofInt (i : Int) : Text :=
  if i < 0 then lit "-" ++ ofNat i.natAbs else ofNat i.natAbs

/-- The numeral of `n`, filled up on the left with zeros to at least `width` digits. -/
def ofNatPadded (width n : Nat) : Text :=
  (ofNat n).leftpad width (CodePoint.digit 0)

/-- The hexadecimal numeral of `n` with exactly `width` digits; higher digits are dropped. -/
def hexPadded : Nat → Nat → Text
  | 0, _ => []
  | width + 1, n => hexPadded width (n / 16) ++ [CodePoint.hexDigit (n % 16)]

/-- The pieces between the occurrences of `sep`; there is always at least one. -/
def splitOn (sep : CodePoint) : Text → List Text
  | [] => [[]]
  | c :: rest =>
    if c = sep then [] :: splitOn sep rest
    else match splitOn sep rest with
      | [] => [[c]]
      | piece :: pieces => (c :: piece) :: pieces

/-- The part before the first `sep` and the part after it, which is empty if there is none. -/
def cutAt (sep : CodePoint) : Text → Text × Text
  | [] => ([], [])
  | c :: rest =>
    if c = sep then ([], rest)
    else let (before, after) := cutAt sep rest; (c :: before, after)

/-- The members of a list, separated by `sep`. -/
def join (sep : Text) : List Text → Text
  | [] => []
  | [t] => t
  | t :: u :: rest => t ++ sep ++ join sep (u :: rest)

/-- Texts are ordered by their first differing code point; a proper beginning comes first. -/
def before : Text → Text → Bool
  | [], [] => false
  | [], _ :: _ => true
  | _ :: _, [] => false
  | a :: s, b :: t => a.val < b.val || (a == b && before s t)

end Text

end GrapheneSigner
