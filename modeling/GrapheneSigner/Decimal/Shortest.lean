import GrapheneSigner.Decimal.Binary64
import GrapheneSigner.Text.Basic

/-!
# Shortest decimal form of a double

A double is written with the fewest digits that read back as the same double; among those, the
digits nearest to its value are taken.  The notation is positional for the decimal exponents from
-4 to 15, and has a fractional part always; outside that range the exponent has a sign and at
least two digits.
-/

namespace GrapheneSigner

namespace Shortest

def digitCount (n : Nat) : Nat := (Text.ofNat n).length

/-- The largest `x` with `10^x ≤ num / den`, for a positive quotient. -/
def magnitude (num den : Nat) : Int :=
  if den ≤ num then (digitCount (num / den) : Int) - 1
  else -(digitCount ((den + num - 1) / num - 1) : Int)

/-- The quotient `num / den` in units of `10^unit`, again as a quotient. -/
def inUnits (num den : Nat) (unit : Int) : Nat × Nat :=
  if 0 ≤ unit then (num, den * Nat.pow 10 unit.toNat) else (num * Nat.pow 10 (-unit).toNat, den)

/-- The neighbour of `num / den` on the grid of `10^unit` that reads back as `x`; of two such
neighbours the nearer one, and of two equally near ones the even one. -/
def onGrid? (x : Binary64) (num den : Nat) (unit : Int) : Option Nat :=
  let (a, b) := inUnits num den unit
  let low := a / b
  let reads (n : Nat) : Bool := Binary64.ofDecimal false n unit == x
  let nearest := roundHalfEven a b
  if reads nearest then some nearest
  else if reads low then some low
  else if reads (low + 1) then some (low + 1)
  else none

/-- Tries one digit, then two, and so on; seventeen digits always read back. -/
def search (x : Binary64) (num den : Nat) (top : Int) : Nat → Nat → Nat × Int
  | 0, count =>
    let unit := top + 1 - count
    let (a, b) := inUnits num den unit
    (roundHalfEven a b, unit)
  | fuel + 1, count =>
    let unit := top + 1 - count
    match onGrid? x num den unit with
    | some n => (n, unit)
    | none => search x num den top fuel (count + 1)

/-- The digits and the unit of the shortest form of a positive double. -/
def digits (x : Binary64) (num den : Nat) : Nat × Int :=
  search x num den (magnitude num den) 16 1

/-- Digits without the zeros at their end. -/
def stripZeros (t : Text) : Text :=
  (t.reverse.dropWhile (· = CodePoint.digit 0)).reverse

/-- Lays out the digits `ds` of a number whose first digit stands for `10^top`. -/
def layout (ds : Text) (top : Int) : Text :=
  if -4 ≤ top ∧ top < 16 then
    if top < 0 then
      lit "0." ++ List.replicate (-top - 1).toNat (CodePoint.digit 0) ++ ds
    else
      let places := top.toNat + 1
      let whole := ds.take places
      let fraction := ds.drop places
      whole ++ List.replicate (places - whole.length) (CodePoint.digit 0) ++ lit "."
        ++ (if fraction = [] then lit "0" else fraction)
  else
    ds.take 1 ++ (if ds.length ≤ 1 then [] else lit "." ++ ds.drop 1) ++ lit "e"
      ++ (if top < 0 then lit "-" else lit "+") ++ Text.ofNatPadded 2 top.natAbs

end Shortest

/-- The shortest decimal form of a double. -/
def Binary64.shortest (x : Binary64) : Text :=
  match x with
  | .notANumber => lit "nan"
  | .infinite negative => if negative then lit "-inf" else lit "inf"
  | .finite negative _ _ =>
    let sign := if negative then lit "-" else []
    match x.ratio? with
    | some (_, num, den) =>
      if num = 0 then sign ++ lit "0.0"
      else
        let magnitude := match x with
          | .finite _ m e => Binary64.finite false m e
          | other => other
        let (n, unit) := Shortest.digits magnitude num den
        let numeral := Text.ofNat n
        sign ++ Shortest.layout (Shortest.stripZeros numeral) (unit + numeral.length - 1)
    | none => []

end GrapheneSigner
