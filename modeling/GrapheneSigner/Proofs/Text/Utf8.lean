import GrapheneSigner.Text.Utf8

/-!
# Texts read back from UTF-8

Every code point that is no surrogate is read back from its bytes, whatever follows, and so every
encodable text is read back.  The encodable texts are the lists of characters, and their bytes are
the ones that the standard library gives to characters.
-/

namespace GrapheneSigner

namespace Text

theorem scalar?_val {c : CodePoint} (h : c.isSurrogate = false) : scalar? c.val = some c := by
  unfold scalar?
  rw [dif_pos c.val_lt]
  exact if_neg (by simp [h])

theorem toNat_ofNat {n : Nat} (h : n < 256) : (UInt8.ofNat n).toNat = n := by
  rw [UInt8.toNat_ofNat']
  omega

/-- Six bits behind the mark of a continuation byte. -/
theorem continuation?_mod (n : Nat) :
    continuation? (UInt8.ofNat (0x80 + n % 0x40)) = some (n % 0x40) := by
  have hbyte : (UInt8.ofNat (0x80 + n % 0x40)).toNat = 0x80 + n % 0x40 := toNat_ofNat (by omega)
  unfold continuation?
  rw [hbyte, if_pos (by omega), Nat.add_sub_cancel_left]

/-- A code point is read back from its bytes, and reading goes on behind them. -/
theorem ofUtf8?_utf8_append {c : CodePoint} (h : c.isSurrogate = false) (rest : Bytes) :
    ofUtf8? (c.utf8 ++ rest) = (ofUtf8? rest).map (c :: ·) := by
  have hscalar : scalar? c.val = some c := scalar?_val h
  have hbound : c.val < 0x110000 := c.val_lt
  generalize hn : c.val = n at hscalar hbound
  unfold CodePoint.utf8
  simp only [hn]
  by_cases h1 : n < 0x80
  · have hbyte : (UInt8.ofNat n).toNat = n := toNat_ofNat (by omega)
    rw [if_pos h1, List.cons_append, List.nil_append, ofUtf8?.eq_def]
    dsimp only
    rw [hbyte, if_pos h1, hscalar]
    cases ofUtf8? rest <;> rfl
  rw [if_neg h1]
  by_cases h2 : n < 0x800
  · have hbyte : (UInt8.ofNat (0xC0 + n / 0x40)).toNat = 0xC0 + n / 0x40 := toNat_ofNat (by omega)
    have hsum : (0xC0 + n / 0x40 - 0xC0) * 0x40 + n % 0x40 = n := by omega
    rw [if_pos h2]
    simp only [List.cons_append, List.nil_append]
    rw [ofUtf8?.eq_def]
    dsimp only
    rw [hbyte, if_neg (by omega), if_pos (by omega)]
    simp only [continuation?_mod, Option.bind_eq_bind, Option.bind_some, hsum]
    rw [if_neg (by omega), hscalar]
    cases ofUtf8? rest <;> rfl
  rw [if_neg h2]
  by_cases h3 : n < 0x10000
  · have hbyte : (UInt8.ofNat (0xE0 + n / 0x1000)).toNat = 0xE0 + n / 0x1000 :=
      toNat_ofNat (by omega)
    have hsum : ((0xE0 + n / 0x1000 - 0xE0) * 0x40 + n / 0x40 % 0x40) * 0x40 + n % 0x40 = n := by
      omega
    rw [if_pos h3]
    simp only [List.cons_append, List.nil_append]
    rw [ofUtf8?.eq_def]
    dsimp only
    rw [hbyte, if_neg (by omega), if_neg (by omega), if_pos (by omega)]
    simp only [continuation?_mod, Option.bind_eq_bind, Option.bind_some, hsum]
    rw [if_neg (by omega), hscalar]
    cases ofUtf8? rest <;> rfl
  · have hbyte : (UInt8.ofNat (0xF0 + n / 0x40000)).toNat = 0xF0 + n / 0x40000 :=
      toNat_ofNat (by omega)
    have hsum : (((0xF0 + n / 0x40000 - 0xF0) * 0x40 + n / 0x1000 % 0x40) * 0x40
        + n / 0x40 % 0x40) * 0x40 + n % 0x40 = n := by
      omega
    rw [if_neg h3]
    simp only [List.cons_append, List.nil_append]
    rw [ofUtf8?.eq_def]
    dsimp only
    rw [hbyte, if_neg (by omega), if_neg (by omega), if_neg (by omega)]
    simp only [continuation?_mod, Option.bind_eq_bind, Option.bind_some, hsum]
    rw [if_neg (by omega), hscalar]
    cases ofUtf8? rest <;> rfl

/-- An encodable text is read back from its bytes. -/
theorem ofUtf8?_utf8 {t : Text} (h : t.isEncodable = true) : ofUtf8? t.utf8 = some t := by
  induction t with
  | nil => rfl
  | cons c rest ih =>
    simp only [isEncodable, List.all_cons, Bool.and_eq_true, Bool.not_eq_true'] at h
    rw [show utf8 (c :: rest) = c.utf8 ++ utf8 rest from List.flatMap_cons,
      ofUtf8?_utf8_append h.1, ih h.2]
    rfl

/-! ## Characters -/

/-- The encodable texts are the ones without surrogates. -/
theorem isEncodable_iff_forall {t : Text} :
    t.isEncodable = true ↔ ∀ c ∈ t, ¬ (0xD800 ≤ c.val ∧ c.val ≤ 0xDFFF) := by
  simp only [isEncodable, CodePoint.isSurrogate, List.all_eq_true, Bool.not_eq_true',
    Bool.and_eq_false_iff, decide_eq_false_iff_not, Decidable.not_and_iff_not_or_not]

theorem isSurrogate_ofChar (c : Char) : (CodePoint.ofChar c).isSurrogate = false := by
  have hvalid : c.val.toNat < 0xD800 ∨ 0xDFFF < c.val.toNat ∧ c.val.toNat < 0x110000 := c.valid
  have hval : (CodePoint.ofChar c).val = c.val.toNat := rfl
  unfold CodePoint.isSurrogate
  rw [hval, Bool.and_eq_false_iff, decide_eq_false_iff_not, decide_eq_false_iff_not]
  omega

/-- A code point that is no surrogate is a character. -/
theorem exists_ofChar {c : CodePoint} (h : c.isSurrogate = false) :
    ∃ x, c = CodePoint.ofChar x := by
  unfold CodePoint.isSurrogate at h
  rw [Bool.and_eq_false_iff, decide_eq_false_iff_not, decide_eq_false_iff_not] at h
  have hlt := c.val_lt
  have hvalid : c.val.isValidChar := by
    unfold Nat.isValidChar
    omega
  refine ⟨Char.ofNatAux c.val hvalid, CodePoint.ext_iff.mpr ?_⟩
  rfl

/-- The encodable texts are the lists of characters. -/
theorem isEncodable_iff {t : Text} :
    t.isEncodable = true ↔ ∃ cs : List Char, t = cs.map CodePoint.ofChar := by
  constructor
  · intro h
    induction t with
    | nil => exact ⟨[], rfl⟩
    | cons c rest ih =>
      simp only [isEncodable, List.all_cons, Bool.and_eq_true, Bool.not_eq_true'] at h
      obtain ⟨x, rfl⟩ := exists_ofChar h.1
      obtain ⟨cs, rfl⟩ := ih h.2
      exact ⟨x :: cs, rfl⟩
  · rintro ⟨cs, rfl⟩
    rw [isEncodable, List.all_map, List.all_eq_true]
    intro x _
    rw [Function.comp_apply, isSurrogate_ofChar]
    rfl

/-- A character has the bytes that the standard library gives it. -/
theorem utf8_ofChar (c : Char) : (CodePoint.ofChar c).utf8 = String.utf8EncodeChar c := by
  have hlt : c.val.toNat < 0x110000 := (CodePoint.ofChar c).val_lt
  have hval : (CodePoint.ofChar c).val = c.val.toNat := rfl
  unfold CodePoint.utf8 String.utf8EncodeChar
  rw [hval]
  generalize c.val.toNat = n at hlt
  dsimp only
  by_cases h1 : n < 0x80
  · rw [if_pos h1, if_pos (by omega)]
  rw [if_neg h1, if_neg (show ¬ n ≤ 127 by omega)]
  by_cases h2 : n < 0x800
  · rw [if_pos h2, if_pos (by omega), Nat.mod_eq_of_lt (show n / 64 < 32 by omega),
      Nat.add_comm 0xC0, Nat.add_comm 0x80]
  rw [if_neg h2, if_neg (show ¬ n ≤ 2047 by omega)]
  by_cases h3 : n < 0x10000
  · rw [if_pos h3, if_pos (by omega), Nat.mod_eq_of_lt (show n / 4096 < 16 by omega),
      Nat.add_comm 0xE0, Nat.add_comm 0x80, Nat.add_comm 0x80]
  · rw [if_neg h3, if_neg (by omega), Nat.mod_eq_of_lt (show n / 262144 < 8 by omega),
      Nat.add_comm 0xF0, Nat.add_comm 0x80, Nat.add_comm 0x80, Nat.add_comm 0x80]

/-- A list of characters has the bytes that the standard library gives it. -/
theorem utf8_map_ofChar (cs : List Char) :
    utf8 (cs.map CodePoint.ofChar) = cs.flatMap String.utf8EncodeChar := by
  simp only [utf8, List.flatMap_map, utf8_ofChar]

end Text

end GrapheneSigner
