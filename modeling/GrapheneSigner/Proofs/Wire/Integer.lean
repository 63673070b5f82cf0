import GrapheneSigner.Wire.Integer

/-!
# Integers read back from their bytes

A number below the range of a width is read back from its bytes in either order, and bytes are
written again for their number.  An integer of a wire type is read back from the bytes that the type
gives it: what lies in the upper half of the range of a signed type stands for a negative integer.
-/

namespace GrapheneSigner

theorem ofBigEndian_reverse (b : Bytes) : ofBigEndian b.reverse = ofLittleEndian b := by
  induction b with
  | nil => rfl
  | cons x rest ih =>
    rw [ofBigEndian, List.reverse_cons, List.foldl_append, ← ofBigEndian, ih]
    simp only [List.foldl_cons, List.foldl_nil, ofLittleEndian]
    omega

theorem ofBigEndian_bigEndian {width n : Nat} (h : n < byteRange width) :
    ofBigEndian (bigEndian width n) = n := by
  rw [bigEndian, ofBigEndian_reverse, ofLittleEndian_littleEndian, Nat.mod_eq_of_lt h]

theorem littleEndian_ofLittleEndian (b : Bytes) :
    littleEndian b.length (ofLittleEndian b) = b := by
  induction b with
  | nil => rfl
  | cons x rest ih =>
    have hx := x.toNat_lt
    have hmod : (x.toNat + 256 * ofLittleEndian rest) % 256 = x.toNat := by omega
    have hdiv : (x.toNat + 256 * ofLittleEndian rest) / 256 = ofLittleEndian rest := by omega
    rw [ofLittleEndian, List.length_cons, littleEndian, hmod, hdiv, ih, UInt8.ofNat_toNat]

/-- A byte string of a width is written for its number. -/
theorem bigEndian_ofBigEndian (b : Bytes) : bigEndian b.length (ofBigEndian b) = b := by
  obtain ⟨c, rfl⟩ : ∃ c : Bytes, b = c.reverse := ⟨b.reverse, b.reverse_reverse.symm⟩
  rw [bigEndian, ofBigEndian_reverse, List.length_reverse, littleEndian_ofLittleEndian]

theorem byteRange_pos (width : Nat) : 0 < byteRange width :=
  Nat.pow_pos (by decide)

namespace WireInt

/-- The integer that the bytes of a type stand for. -/
def decode (w : WireInt) (b : Bytes) : Int :=
  let n := ofLittleEndian b
  if w.signed = true ∧ byteRange w.width / 2 ≤ n then n - byteRange w.width else n

theorem two_dvd_byteRange (w : WireInt) : 2 ∣ byteRange w.width := by
  cases w <;> decide

/-- The bytes of an integer of a type have the width of the type. -/
@[simp]
theorem length_encode (w : WireInt) (i : Int) : (w.encode i).length = w.width :=
  length_littleEndian _ _

/-- An integer of a type is read back from its bytes. -/
theorem decode_encode {w : WireInt} {i : Int} (hlow : w.least ≤ i) (hhigh : i ≤ w.greatest) :
    w.decode (w.encode i) = i := by
  have hrange := byteRange_pos w.width
  have heven := two_dvd_byteRange w
  have hlt : (i.emod (byteRange w.width)).toNat < byteRange w.width := by
    have := Int.emod_lt_of_pos i (Int.natCast_pos.mpr hrange)
    have := Int.emod_nonneg i (Int.natCast_ne_zero.mpr (Nat.ne_of_gt hrange))
    change (i % (byteRange w.width : Int)).toNat < _
    omega
  rw [decode, encode, ofLittleEndian_littleEndian, Nat.mod_eq_of_lt hlt]
  have hemod : i.emod (byteRange w.width) = i % (byteRange w.width : Int) := rfl
  rw [hemod]
  generalize hr : byteRange w.width = range at *
  unfold least greatest at *
  rw [hr] at hlow hhigh
  cases hs : w.signed
  · simp only [hs, Bool.false_eq_true, if_false, false_and] at hlow hhigh ⊢
    rw [Int.emod_eq_of_lt hlow (by omega)]
    omega
  · simp only [hs, if_true, true_and] at hlow hhigh ⊢
    rcases Int.lt_or_le i 0 with hneg | hpos
    · have hwrap : i % (range : Int) = i + range := by
        rw [← Int.add_emod_right, Int.emod_eq_of_lt (by omega) (by omega)]
      rw [hwrap, if_pos (by omega)]
      omega
    · rw [Int.emod_eq_of_lt hpos (by omega), if_neg (by omega)]
      omega

end WireInt

end GrapheneSigner
