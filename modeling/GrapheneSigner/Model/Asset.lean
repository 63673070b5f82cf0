import GrapheneSigner.Model.Vocabulary
import GrapheneSigner.Text.Numeral

/-!
# Assets

An asset is a whole number of smallest units and a symbol, whose precision says how many decimal
places the written amount has.  The written form of a thousand units is `1.000 STEEM`; `Asset.print`
gives it, and `Asset.read` takes it back.
-/

namespace GrapheneSigner

/-- An amount of a core asset in its smallest unit. -/
structure Asset where
  amount : Int
  symbol : AssetSymbol
  deriving DecidableEq

namespace Asset

def precision (a : Asset) : Nat := a.symbol.precision

def writeAmount (precision : Nat) (units : Int) : Text :=
  (if units < 0 then lit "-" else []) ++ Text.ofNat (units.natAbs / Nat.pow 10 precision) ++ lit "."
    ++ Text.ofNatPadded precision (units.natAbs % Nat.pow 10 precision)

/-- The written form of an asset, whatever its amount. -/
def write (a : Asset) : Text := writeAmount a.precision a.amount ++ lit " " ++ a.symbol.name

/-- Prints an asset in its written form, unless there are too many digits before the point. -/
def print (a : Asset) : Except Text Text :=
  if Numeral.isWritable (a.amount.natAbs / Nat.pow 10 a.precision : Nat) then .ok a.write
  else .error Numeral.overlong

def space : CodePoint := .ofNat 0x20

def point : CodePoint := .ofNat 0x2E

/-- Reads a written asset: blanks around it are dropped, one space stands between amount and
symbol, and the amount has as many decimal places as the symbol asks for. -/
def read (t : Text) : Except Text Asset :=
  match Text.splitOn space (t.trim CodePoint.isBlank) with
  | [amount, symbol] =>
    match AssetSymbol.ofName? symbol with
    | some symbol =>
      let (whole, fraction) := amount.cutAt point
      if fraction.length = symbol.precision then
        (Numeral.read (whole ++ fraction)).map fun units ↦ ⟨units, symbol⟩
      else .error (symbol.name ++ lit " requires " ++ Text.ofNat symbol.precision
        ++ lit " decimal places, got " ++ t.quoted)
    | none => .error (lit "Cannot parse asset from: " ++ t.quoted)
  | _ => .error (lit "Cannot parse asset from: " ++ t.quoted)

end Asset

end GrapheneSigner
