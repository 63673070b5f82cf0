/-!
# Double precision numbers

A finite double is a sign, a mantissa below 2^53 and a power of two not below 2^(-1074).  The
one operation that rounds is `Binary64.ofRatio`: it takes a quotient of natural numbers to the
nearest double, and a tie to the even mantissa.  Everything else is exact.
-/

namespace GrapheneSigner

/-- A double: `(-1)^negative * mantissa * 2^exponent`, an infinity, or no number. -/
inductive Binary64 where
  | finite (negative : Bool) (mantissa : Nat) (exponent : Int)
  | infinite (negative : Bool)
  | notANumber
  deriving DecidableEq

/-- The quotient rounded to the nearest natural number, a tie to the even one. -/
def roundHalfEven (num den : Nat) : Nat :=
  let q := num / den
  let r := num % den
  if den < 2 * r ∨ (2 * r = den ∧ q % 2 = 1) then q + 1 else q

namespace Binary64

/-- The quotient `num / den` in units of `2^exponent`, again as a quotient. -/
def inUnits (num den : Nat) (exponent : Int) : Nat × Nat :=
  if 0 ≤ exponent then (num, den <<< exponent.toNat) else (num <<< (-exponent).toNat, den)

/-- Mantissas are below this bound, 2 to the power 53. -/
def mantissaBound : Nat := 0x20000000000000

/-- The exponent of the double nearest to a positive quotient, before the mantissa is rounded:
the mantissa has 53 bits, unless the quotient is too small for that. -/
def exponentFor (num den : Nat) : Int :=
  let low : Int := (num.log2 : Int) - den.log2 - 53
  let (a, b) := inUnits num den low
  max (-1074) (if a / b < mantissaBound then low else low + 1)

/-- The double nearest to `(-1)^negative * num / den`. -/
def ofRatio (negative : Bool) (num den : Nat) : Binary64 :=
  if num = 0 then .finite negative 0 (-1074)
  else
    let e := exponentFor num den
    let (a, b) := inUnits num den e
    let m := roundHalfEven a b
    let (m, e) := if m = mantissaBound then (mantissaBound / 2, e + 1) else (m, e)
    if 971 < e then .infinite negative else .finite negative m e

def ofInt (i : Int) : Binary64 := ofRatio (i < 0) i.natAbs 1

/-- The double nearest to `digits * 10^exponent`, as decimal notation writes numbers. -/
def ofDecimal (negative : Bool) (digits : Nat) (exponent : Int) : Binary64 :=
  if digits = 0 then .finite negative 0 (-1074)
  else if 400 < exponent then .infinite negative
  else if exponent + (digits.log2 : Int) < -400 - 4 * 400 then .finite negative 0 (-1074)
  else if 0 ≤ exponent then ofRatio negative (digits * Nat.pow 10 exponent.toNat) 1
  else ofRatio negative digits (Nat.pow 10 (-exponent).toNat)

/-- A finite double as a quotient: sign, numerator, denominator. -/
def ratio? : Binary64 → Option (Bool × Nat × Nat)
  | .finite negative m e =>
    if 0 ≤ e then some (negative, m <<< e.toNat, 1) else some (negative, m, 1 <<< (-e).toNat)
  | _ => none

/-- The integer part of a finite double, rounding toward zero. -/
def truncate? (x : Binary64) : Option Int :=
  x.ratio?.map fun (negative, num, den) ↦
    if negative then -((num / den : Nat) : Int) else ((num / den : Nat) : Int)

/-- What a finite double has behind its integer part, with the sign of the double. -/
def fraction (x : Binary64) : Binary64 :=
  match x.ratio? with
  | some (negative, num, den) => ofRatio negative (num % den) den
  | none => .notANumber

/-- The double nearest to a finite double times a natural number. -/
def scale (x : Binary64) (k : Nat) : Binary64 :=
  match x.ratio? with
  | some (negative, num, den) => ofRatio negative (num * k) den
  | none => .notANumber

/-- The value of a double that is an integer. -/
def toInt? (x : Binary64) : Option Int :=
  match x.ratio? with
  | some (negative, num, den) =>
    if num % den = 0 then
      some (if negative then -((num / den : Nat) : Int) else ((num / den : Nat) : Int))
    else none
  | none => none

/-- Neither an infinity nor something that is no number. -/
def isFinite : Binary64 → Bool
  | .finite .. => true
  | _ => false

/-- Both zeros are zero. -/
def isZero : Binary64 → Bool
  | .finite _ m _ => m == 0
  | _ => false

/-- The double nearest to the sum of two finite doubles; other sums are no numbers here. -/
def add (x y : Binary64) : Binary64 :=
  match x.ratio?, y.ratio? with
  | some (sx, nx, dx), some (sy, ny, dy) =>
    let a : Int := (if sx then -1 else 1) * (nx * dy : Nat)
    let b : Int := (if sy then -1 else 1) * (ny * dx : Nat)
    if a + b = 0 then .finite (sx && sy) 0 (-1074)
    else ofRatio (a + b < 0) (a + b).natAbs (dx * dy)
  | _, _ => .notANumber

end Binary64

end GrapheneSigner
