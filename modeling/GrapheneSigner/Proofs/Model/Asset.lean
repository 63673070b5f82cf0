import GrapheneSigner.Model.Asset
import GrapheneSigner.Proofs.Text.Numeral
import GrapheneSigner.Proofs.Text.Pieces

/-!
# Written assets read back

A written asset is a decimal number with as many places as its symbol asks for, and the symbol
behind a space.  Read like this, it stands for the asset that it was written for, whatever the
amount is.
-/

namespace GrapheneSigner

/-- An integer is its magnitude with its sign. -/
theorem Numeral.signed_natAbs (i : Int) : signed (decide (i < 0)) i.natAbs = i := by
  unfold signed
  by_cases hneg : i < 0
  · rw [decide_eq_true hneg, if_pos rfl]
    omega
  · rw [decide_eq_false hneg, if_neg Bool.false_ne_true]
    omega

namespace AssetSymbol

theorem precision_pos (s : AssetSymbol) : 0 < s.precision := by
  cases s <;> decide

theorem ofName?_name (s : AssetSymbol) : ofName? s.name = some s := by
  cases s <;> decide

theorem space_not_mem_name (s : AssetSymbol) : Asset.space ∉ s.name := by
  cases s <;> decide

end AssetSymbol

namespace Asset

/-- The smallest units of a decimal number with so many places: the number without its point. -/
def units? (places : Nat) (t : Text) : Option Int :=
  let (negative, magnitude) := Numeral.cutMinus t
  match magnitude.splitOn point with
  | [whole, fraction] =>
    if whole ≠ [] ∧ fraction.length = places then
      (Text.decimalFrom? 0 (whole ++ fraction)).map (Numeral.signed negative)
    else none
  | _ => none

/-- The asset of a decimal number and a symbol, with a space between them. -/
def ofDecimal? (t : Text) : Option Asset :=
  match t.splitOn space with
  | [amount, name] => do
    let symbol ← AssetSymbol.ofName? name
    let units ← units? symbol.precision amount
    return ⟨units, symbol⟩
  | _ => none

def magnitude (places n : Nat) : Text :=
  Text.ofNat (n / 10 ^ places) ++ point :: Text.ofNatPadded places (n % 10 ^ places)

theorem writeAmount_eq (places : Nat) (units : Int) :
    writeAmount places units
      = (if units < 0 then [.ofNat 0x2D] else []) ++ magnitude places units.natAbs := by
  have hdash : lit "-" = [.ofNat 0x2D] := rfl
  have hpoint : lit "." = [point] := rfl
  unfold writeAmount magnitude
  rw [hdash, hpoint]
  simp only [List.append_assoc, List.cons_append, List.nil_append]
  rfl

/-- A magnitude is made up of digits and a point. -/
theorem not_mem_magnitude {c : CodePoint} (hc : c.val < 0x30 ∨ 0x39 < c.val) (hpoint : c ≠ point)
    (places n : Nat) : c ∉ magnitude places n := by
  have hwhole := (Text.onlyDigits_ofNat (n / 10 ^ places)).not_mem hc
  have hfraction := (Text.onlyDigits_ofNatPadded places (n % 10 ^ places)).not_mem hc
  simp [magnitude, hwhole, hfraction, hpoint]

theorem cutMinus_magnitude (places n : Nat) :
    Numeral.cutMinus (magnitude places n) = (false, magnitude places n) := by
  obtain ⟨c, rest, hcons⟩ := List.exists_cons_of_ne_nil (Text.ofNat_ne_nil (n / 10 ^ places))
  have hdigit := Text.onlyDigits_ofNat (n / 10 ^ places) c (by rw [hcons]; exact List.mem_cons_self)
  unfold magnitude
  rw [hcons, List.cons_append, Numeral.cutMinus, if_neg (by omega)]

theorem cutMinus_writeAmount (places : Nat) (units : Int) :
    Numeral.cutMinus (writeAmount places units)
      = (decide (units < 0), magnitude places units.natAbs) := by
  rw [writeAmount_eq]
  by_cases hneg : units < 0
  · rw [if_pos hneg, decide_eq_true hneg]
    rfl
  · rw [if_neg hneg, decide_eq_false hneg]
    exact cutMinus_magnitude _ _

theorem length_fraction {places : Nat} (hplaces : 0 < places) (n : Nat) :
    (Text.ofNatPadded places (n % 10 ^ places)).length = places :=
  Text.length_ofNatPadded hplaces (Nat.mod_lt _ (Nat.pow_pos (by decide)))

/-- The digits before and behind the point make up the number. -/
theorem decimalFrom?_magnitude {places : Nat} (hplaces : 0 < places) (n : Nat) :
    Text.decimalFrom? 0 (Text.ofNat (n / 10 ^ places) ++ Text.ofNatPadded places (n % 10 ^ places))
      = some n := by
  rw [Text.decimalFrom?_append, Text.decimalFrom?_ofNat, Option.bind_some,
    Text.decimalFrom?_ofNatPadded, length_fraction hplaces, zero_mul, zero_add, Nat.div_add_mod']

theorem units?_writeAmount {places : Nat} (hplaces : 0 < places) (units : Int) :
    units? places (writeAmount places units) = some units := by
  have hsplit : (magnitude places units.natAbs).splitOn point
      = [Text.ofNat (units.natAbs / 10 ^ places),
        Text.ofNatPadded places (units.natAbs % 10 ^ places)] := by
    rw [magnitude, Text.splitOn_append ((Text.onlyDigits_ofNat _).not_mem (by decide)),
      Text.splitOn_of_not_mem ((Text.onlyDigits_ofNatPadded _ _).not_mem (by decide))]
  unfold units?
  rw [cutMinus_writeAmount]
  dsimp only
  rw [hsplit]
  dsimp only
  rw [if_pos ⟨Text.ofNat_ne_nil _, length_fraction hplaces _⟩, decimalFrom?_magnitude hplaces,
    Option.map_some, Numeral.signed_natAbs]

/-- An asset is printed if its amount has a numeral. -/
theorem print_of_isWritable {a : Asset} (h : Numeral.isWritable a.amount = true) :
    a.print = .ok a.write := by
  have hwhole : Numeral.isWritable (a.amount.natAbs / Nat.pow 10 a.precision : Nat) = true := by
    rw [Numeral.isWritable_iff, Int.natAbs_natCast]
    exact Nat.lt_of_le_of_lt (Nat.div_le_self _ _) (Numeral.isWritable_iff.mp h)
  rw [print, if_pos hwhole]

/-- A written asset stands for the asset. -/
theorem ofDecimal?_write (a : Asset) : ofDecimal? a.write = some a := by
  have hwrite : a.write = writeAmount a.precision a.amount ++ space :: a.symbol.name := by
    have hspace : lit " " = [space] := rfl
    rw [write, hspace, List.append_assoc, List.singleton_append]
  have hamount : space ∉ writeAmount a.precision a.amount := by
    have hmagnitude := not_mem_magnitude (c := space) (by decide) (by decide) a.precision
      a.amount.natAbs
    rw [writeAmount_eq]
    split
    · rw [List.singleton_append, List.mem_cons, not_or]
      exact ⟨by decide, hmagnitude⟩
    · exact hmagnitude
  unfold ofDecimal?
  rw [hwrite, Text.splitOn_append hamount,
    Text.splitOn_of_not_mem (a.symbol.space_not_mem_name)]
  dsimp only
  rw [AssetSymbol.ofName?_name]
  have hunits : units? a.symbol.precision (writeAmount a.precision a.amount) = some a.amount :=
    units?_writeAmount a.symbol.precision_pos a.amount
  simp only [Option.bind_eq_bind, Option.bind_some, hunits]
  rfl

end Asset

end GrapheneSigner
