import GrapheneSigner.Text.Hex

/-!
# Written bytes read back

The hexadecimal digits of a byte string are ASCII, none of them is a blank, and each pair of them
reads as the byte that it was written for.  So `Hex.read` takes back what `Bytes.hex` gives.  What
else it reads is made up of pairs of digits, with blanks before, between and behind the pairs.
-/

namespace GrapheneSigner

namespace CodePoint

theorem val_hexDigit {d : Nat} (h : d < 16) :
    (hexDigit d).val = if d < 10 then 0x30 + d else 0x57 + d := by
  unfold hexDigit digit
  split
  · rw [val_ofNat (by omega)]
  · rw [val_ofNat (by omega)]
    omega

theorem hexDigit_lt {d : Nat} (h : d < 16) : (hexDigit d).val < 0x80 := by
  rw [val_hexDigit h]
  split <;> omega

theorem hexValue?_hexDigit {d : Nat} (h : d < 16) : (hexDigit d).hexValue? = some d := by
  unfold hexValue?
  rw [val_hexDigit h]
  by_cases hd : d < 10
  · rw [if_pos hd, if_pos (by omega)]
    congr 1
    omega
  · rw [if_neg hd, if_neg (by omega), if_neg (by omega), if_pos (by omega)]
    congr 1
    omega

theorem isAsciiBlank_hexDigit {d : Nat} (h : d < 16) : (hexDigit d).isAsciiBlank = false := by
  have hlow : 0x30 ≤ (hexDigit d).val := by
    rw [val_hexDigit h]
    split <;> omega
  rw [isAsciiBlank, Bool.or_eq_false_iff, Bool.and_eq_false_iff]
  constructor
  · rw [beq_eq_false_iff_ne]
    omega
  · right
    rw [decide_eq_false_iff_not]
    omega

end CodePoint

namespace Hex

theorem readFrom_hex (pos : Nat) (b : Bytes) : readFrom pos (Bytes.hex b) = .ok b := by
  induction b generalizing pos with
  | nil => rfl
  | cons x rest ih =>
    have hx := x.toNat_lt
    have hhigh : x.toNat / 16 < 16 := by omega
    have hlow : x.toNat % 16 < 16 := by omega
    have hsplit : x.toNat / 16 * 16 + x.toNat % 16 = x.toNat := by omega
    simp only [Bytes.hex, List.flatMap_cons, List.cons_append, List.nil_append, readFrom,
      CodePoint.isAsciiBlank_hexDigit hhigh, CodePoint.hexValue?_hexDigit hhigh,
      CodePoint.hexValue?_hexDigit hlow]
    rw [hsplit, UInt8.ofNat_toNat]
    exact congrArg (Except.map (x :: ·)) (ih (pos + 2))

/-- A byte string is read back from its hexadecimal digits. -/
@[simp]
theorem read_hex (b : Bytes) : read (Bytes.hex b) = .ok b := by
  have hascii : (Bytes.hex b).all (·.val < 0x80) = true := by
    simp only [Bytes.hex, List.all_flatMap, List.all_cons, List.all_nil, Bool.and_true,
      Bool.and_eq_true, decide_eq_true_eq, List.all_eq_true]
    intro x _
    have hx := x.toNat_lt
    exact ⟨CodePoint.hexDigit_lt (by omega), CodePoint.hexDigit_lt (by omega)⟩
  rw [read, if_pos hascii, readFrom_hex]

/-! ### Which texts are hexadecimal -/

/-- Pairs of hexadecimal digits, and blanks outside of the pairs. -/
inductive IsForm : Text → Prop
  | nil : IsForm []
  | blank {c : CodePoint} {rest : Text} (hc : c.isAsciiBlank = true) (hrest : IsForm rest) :
    IsForm (c :: rest)
  | pair {c d : CodePoint} {rest : Text} {high low : Nat} (hc : c.hexValue? = some high)
      (hd : d.hexValue? = some low) (hrest : IsForm rest) : IsForm (c :: d :: rest)

theorem val_lt_of_hexValue? {c : CodePoint} {n : Nat} (h : c.hexValue? = some n) :
    0x30 ≤ c.val ∧ c.val < 0x80 := by
  unfold CodePoint.hexValue? at h
  split at h
  · omega
  split at h
  · omega
  split at h
  · omega
  · cases h

theorem isAsciiBlank_of_hexValue? {c : CodePoint} {n : Nat} (h : c.hexValue? = some n) :
    c.isAsciiBlank = false := by
  have hlow := (val_lt_of_hexValue? h).1
  simp only [CodePoint.isAsciiBlank, Bool.or_eq_false_iff, Bool.and_eq_false_iff,
    beq_eq_false_iff_ne, decide_eq_false_iff_not]
  omega

theorem val_lt_of_isAsciiBlank {c : CodePoint} (h : c.isAsciiBlank = true) : c.val < 0x80 := by
  simp only [CodePoint.isAsciiBlank, Bool.or_eq_true, Bool.and_eq_true, beq_iff_eq,
    decide_eq_true_eq] at h
  omega

theorem isForm_of_readFrom {pos : Nat} {t : Text} {b : Bytes} (h : readFrom pos t = .ok b) :
    IsForm t := by
  fun_induction readFrom pos t generalizing b with
  | case1 => exact .nil
  | case2 pos c rest hblank ih => exact .blank hblank (ih h)
  | case3 => cases h
  | case4 => cases h
  | case5 => cases h
  | case6 pos c hblank high hc d rest low hd ih =>
    cases hrest : readFrom (pos + 2) rest with
    | ok bytes => exact .pair hc hd (ih hrest)
    | error fault =>
      rw [hrest] at h
      cases h

theorem IsForm.exists_readFrom {t : Text} (h : IsForm t) (pos : Nat) :
    ∃ b, readFrom pos t = .ok b := by
  induction h generalizing pos with
  | nil => exact ⟨[], rfl⟩
  | blank hc _ ih =>
    rw [readFrom, if_pos hc]
    exact ih (pos + 1)
  | pair hc hd _ ih =>
    obtain ⟨b, hb⟩ := ih (pos + 2)
    rw [readFrom, if_neg (by simp [isAsciiBlank_of_hexValue? hc]), hc]
    simp only [hd, hb]
    exact ⟨_, rfl⟩

theorem IsForm.isAscii {t : Text} (h : IsForm t) : t.all (·.val < 0x80) = true := by
  induction h with
  | nil => rfl
  | blank hc _ ih => simp [val_lt_of_isAsciiBlank hc, ih]
  | pair hc hd _ ih => simp [(val_lt_of_hexValue? hc).2, (val_lt_of_hexValue? hd).2, ih]

/-- The texts that are read as bytes are the ones of this form. -/
theorem exists_read_iff {t : Text} : (∃ b, read t = .ok b) ↔ IsForm t := by
  unfold read
  constructor
  · rintro ⟨b, h⟩
    split at h
    · exact isForm_of_readFrom h
    · cases h
  · intro h
    rw [if_pos h.isAscii]
    exact h.exists_readFrom 0

theorem isHex_iff {t : Text} : isHex t = true ↔ IsForm t := by
  rw [← exists_read_iff, isHex]
  cases read t <;> simp [Except.toOption]

instance (t : Text) : Decidable (IsForm t) := decidable_of_iff (isHex t = true) isHex_iff

end Hex

end GrapheneSigner
