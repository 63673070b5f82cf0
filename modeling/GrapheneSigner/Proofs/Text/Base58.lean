import Mathlib.Data.Nat.Digits.Lemmas
import GrapheneSigner.Text.Base58

/-!
# Base 58 as a positional system

A row of digits in some base consists of zeros and the digits of a number, the greatest first.  A
text and a byte string belong together if they are the rows of one number with the same zeros in
front, the text in base 58 and the byte string in base 256.  Every byte string belongs to one text,
the one that is written for it, and only this text is read as the byte string.
-/

namespace GrapheneSigner

namespace Base58

/-! ## Rows of digits -/

/-- Some zeros, and the digits of a number behind them. -/
def row (base zeros n : Nat) : List Nat := List.replicate zeros 0 ++ (Nat.digits base n).reverse

section Rows

variable {base zeros n : Nat}

theorem lt_of_mem_row (hbase : 1 < base) {d : Nat} (h : d ∈ row base zeros n) : d < base := by
  rw [row, List.mem_append, List.mem_reverse] at h
  rcases h with hzero | hdigit
  · rw [List.eq_of_mem_replicate hzero]
    omega
  · exact Nat.digits_lt_base hbase hdigit

/-- Horner's rule computes the number of a row. -/
theorem horner_row (base zeros n : Nat) :
    (row base zeros n).foldl (fun acc d ↦ acc * base + d) 0 = n := by
  have hreverse : (row base zeros n).reverse = Nat.digits base n ++ List.replicate zeros 0 := by
    rw [row, List.reverse_append, List.reverse_reverse, List.reverse_replicate]
  have hfold : (fun acc d ↦ acc * base + d) = fun acc d ↦ d + base * acc := by
    funext acc d
    rw [Nat.mul_comm, Nat.add_comm]
  calc (row base zeros n).foldl (fun acc d ↦ acc * base + d) 0
      = Nat.ofDigits base (row base zeros n).reverse := by
        rw [Nat.ofDigits_eq_foldr, List.foldr_reverse, hfold]
        rfl
    _ = n := by rw [hreverse, Nat.ofDigits_append_replicate_zero, Nat.ofDigits_digits]

/-- All lists of digits are rows. -/
theorem exists_eq_row (hbase : 1 < base) {ds : List Nat} (h : ∀ d ∈ ds, d < base) :
    ∃ zeros n, ds = row base zeros n := by
  induction ds with
  | nil => exact ⟨0, 0, by rw [row, Nat.digits_zero]; rfl⟩
  | cons d rest ih =>
    -- a zero is one more in front; another digit begins the number, with all that follows
    rcases Nat.eq_zero_or_pos d with rfl | hpos
    · obtain ⟨zeros, n, hrest⟩ := ih fun d hd ↦ h d (List.mem_cons_of_mem _ hd)
      refine ⟨zeros + 1, n, ?_⟩
      rw [row, List.replicate_succ, List.cons_append, ← row, ← hrest]
    · refine ⟨0, Nat.ofDigits base (d :: rest).reverse, ?_⟩
      have hdigits : Nat.digits base (Nat.ofDigits base (d :: rest).reverse)
          = (d :: rest).reverse := by
        apply Nat.digits_ofDigits base hbase
        · intro d hd
          exact h d (List.mem_reverse.mp hd)
        · intro hne
          rw [List.getLast_reverse]
          exact Nat.ne_of_gt hpos
      rw [row, hdigits, List.reverse_reverse]
      rfl

/-- The first digit of a number is not zero. -/
theorem ne_zero_of_head?_digits {d : Nat} (h : (Nat.digits base n).reverse.head? = some d) :
    d ≠ 0 := by
  have hne : Nat.digits base n ≠ [] := by
    intro hnil
    rw [hnil] at h
    cases h
  rw [List.head?_reverse, List.getLast?_eq_getLast_of_ne_nil hne, Option.some_inj] at h
  exact h ▸ Nat.getLast_digit_ne_zero base (Nat.digits_ne_nil_iff_ne_zero.mp hne)

/-- The zeros in front of a row can be counted when it is written with the digits of a system. -/
theorem length_takeWhile_row {α : Type} [DecidableEq α] {f : Nat → α} (hbase : 1 < base)
    (hf : ∀ d < base, f d = f 0 → d = 0) (zeros n : Nat) :
    (((row base zeros n).map f).takeWhile (· = f 0)).length = zeros := by
  have hzeros : ∀ a ∈ (List.replicate zeros 0).map f, decide (a = f 0) = true := by
    intro a ha
    rw [List.map_replicate] at ha
    exact decide_eq_true (List.eq_of_mem_replicate ha)
  have hrest : ((Nat.digits base n).reverse.map f).takeWhile (· = f 0) = [] := by
    cases hdigits : (Nat.digits base n).reverse with
    | nil => rfl
    | cons d rest =>
      have hmem : d ∈ (Nat.digits base n).reverse := hdigits ▸ List.mem_cons_self
      have hd : d ≠ 0 := ne_zero_of_head?_digits (by rw [hdigits]; rfl)
      have hne : f d ≠ f 0 :=
        fun heq ↦ hd (hf d (Nat.digits_lt_base hbase (List.mem_reverse.mp hmem)) heq)
      rw [List.map_cons, List.takeWhile_cons_of_neg (by simp [hne])]
  rw [row, List.map_append, List.takeWhile_append_of_pos hzeros, hrest, List.append_nil,
    List.length_map, List.length_replicate]

end Rows

/-! ## The digits in base 58 -/

theorem value?_digit {d : Nat} (h : d < 58) : value? (digit d) = some d := by
  have hall : ∀ d < 58, value? (digit d) = some d := by decide +kernel
  exact hall d h

theorem eq_digit_of_value? {c : CodePoint} {d : Nat} (h : value? c = some d) :
    d < 58 ∧ c = digit d := by
  obtain ⟨hd, hc, -⟩ := List.findIdx?_eq_some_iff_getElem.mp h
  refine ⟨hd, ?_⟩
  rw [digit, List.getD_eq_getElem?_getD, List.getElem?_eq_getElem hd, Option.getD_some]
  exact (of_decide_eq_true hc).symm

theorem digit_injective {d e : Nat} (hd : d < 58) (he : e < 58) (h : digit d = digit e) :
    d = e := by
  have hvalue := value?_digit hd
  rw [h, value?_digit he, Option.some_inj] at hvalue
  exact hvalue.symm

theorem toNat?_map_digit (acc : Nat) {ds : List Nat} (h : ∀ d ∈ ds, d < 58) :
    toNat? acc (ds.map digit) = some (ds.foldl (fun n d ↦ n * 58 + d) acc) := by
  induction ds generalizing acc with
  | nil => rfl
  | cons d rest ih =>
    rw [List.map_cons, toNat?, value?_digit (h d List.mem_cons_self), Option.bind_some,
      ih _ fun d hd ↦ h d (List.mem_cons_of_mem _ hd), List.foldl_cons]

/-- Only rows of digits have a number. -/
theorem exists_digits_of_toNat? {acc n : Nat} {t : Text} (h : toNat? acc t = some n) :
    ∃ ds : List Nat, (∀ d ∈ ds, d < 58) ∧ t = ds.map digit := by
  induction t generalizing acc with
  | nil => exact ⟨[], by simp, rfl⟩
  | cons c rest ih =>
    obtain ⟨d, hd, hrest⟩ := Option.bind_eq_some_iff.mp h
    obtain ⟨ds, hds, rfl⟩ := ih hrest
    obtain ⟨hlt, rfl⟩ := eq_digit_of_value? hd
    exact ⟨d :: ds, List.forall_mem_cons.mpr ⟨hlt, hds⟩, rfl⟩

theorem ofNat_eq_digits (n : Nat) : ofNat n = (Nat.digits 58 n).reverse.map digit := by
  fun_induction ofNat n with
  | case1 => rw [Nat.digits_zero]; rfl
  | case2 n hn ih =>
    rw [ih, Nat.digits_def' (by decide) (Nat.pos_of_ne_zero hn), List.reverse_cons,
      List.map_append, List.map_singleton]

theorem bytesOf_eq_digits (n : Nat) :
    bytesOf n = (Nat.digits 256 n).reverse.map UInt8.ofNat := by
  fun_induction bytesOf n with
  | case1 => rw [Nat.digits_zero]; rfl
  | case2 n hn ih =>
    rw [ih, Nat.digits_def' (by decide) (Nat.pos_of_ne_zero hn), List.reverse_cons,
      List.map_append, List.map_singleton]

/-! ## Texts and byte strings -/

/-- The text and the byte string are the rows of one number, with the same zeros in front. -/
def Represents (t : Text) (b : Bytes) : Prop :=
  ∃ zeros n, t = (row 58 zeros n).map digit ∧ b = (row 256 zeros n).map UInt8.ofNat

theorem Represents.exists_digit {t : Text} {b : Bytes} (h : Represents t b) {c : CodePoint}
    (hc : c ∈ t) : ∃ d < 58, c = digit d := by
  obtain ⟨zeros, n, rfl, -⟩ := h
  obtain ⟨d, hd, rfl⟩ := List.mem_map.mp hc
  exact ⟨d, lt_of_mem_row (by decide) hd, rfl⟩

/-- All byte strings are rows. -/
theorem exists_row_bytes (b : Bytes) : ∃ zeros n, b = (row 256 zeros n).map UInt8.ofNat := by
  have hbytes : ∀ d ∈ b.map UInt8.toNat, d < 256 := by
    intro d hd
    obtain ⟨x, -, rfl⟩ := List.mem_map.mp hd
    exact x.toNat_lt
  obtain ⟨zeros, n, hrow⟩ := exists_eq_row (by decide) hbytes
  refine ⟨zeros, n, ?_⟩
  rw [← hrow, List.map_map]
  simp [Function.comp_def]

theorem encode_row (zeros n : Nat) :
    encode ((row 256 zeros n).map UInt8.ofNat) = (row 58 zeros n).map digit := by
  have hbyte : ∀ d < 256, (UInt8.ofNat d).toNat = d := fun d hd ↦ UInt8.toNat_ofNat_of_lt' hd
  have hvalue : ofBigEndian ((row 256 zeros n).map UInt8.ofNat) = n := by
    rw [ofBigEndian, List.foldl_map]
    refine (List.foldl_ext _ _ 0 fun acc d hd ↦ ?_).trans (horner_row 256 zeros n)
    rw [hbyte d (lt_of_mem_row (by decide) hd)]
  have hinjective : ∀ d < 256, UInt8.ofNat d = UInt8.ofNat 0 → d = 0 := by
    intro d hd h
    rw [← hbyte d hd, h]
    rfl
  have hzeros : (((row 256 zeros n).map UInt8.ofNat).takeWhile (· = 0)).length = zeros :=
    length_takeWhile_row (by decide) hinjective zeros n
  rw [encode, hvalue, hzeros, ofNat_eq_digits, row, List.map_append, List.map_replicate]
  rfl

theorem decode?_row (zeros n : Nat) :
    decode? ((row 58 zeros n).map digit) = some ((row 256 zeros n).map UInt8.ofNat) := by
  have hvalue : toNat? 0 ((row 58 zeros n).map digit) = some n := by
    rw [toNat?_map_digit 0 fun d ↦ lt_of_mem_row (by decide), horner_row]
  have hzeros : (((row 58 zeros n).map digit).takeWhile (· = zero)).length = zeros :=
    length_takeWhile_row (by decide) (fun d hd ↦ digit_injective hd (by decide)) zeros n
  rw [decode?, hvalue, hzeros, Option.map_some, bytesOf_eq_digits, row, List.map_append,
    List.map_replicate]
  rfl

/-- The text of a byte string is written for it. -/
theorem encode_eq_iff {b : Bytes} {t : Text} : encode b = t ↔ Represents t b := by
  constructor
  · rintro rfl
    obtain ⟨zeros, n, rfl⟩ := exists_row_bytes b
    exact ⟨zeros, n, encode_row zeros n, rfl⟩
  · rintro ⟨zeros, n, rfl, rfl⟩
    exact encode_row zeros n

/-- Only the text of a byte string is read as the byte string. -/
theorem decode?_eq_some_iff {t : Text} {b : Bytes} : decode? t = some b ↔ Represents t b := by
  constructor
  · intro h
    obtain ⟨m, hm, -⟩ := Option.map_eq_some_iff.mp h
    obtain ⟨ds, hds, rfl⟩ := exists_digits_of_toNat? hm
    obtain ⟨zeros, n, rfl⟩ := exists_eq_row (by decide) hds
    rw [decode?_row, Option.some_inj] at h
    exact ⟨zeros, n, rfl, h.symm⟩
  · rintro ⟨zeros, n, rfl, rfl⟩
    exact decode?_row zeros n

end Base58

end GrapheneSigner
