import Mathlib.Data.Nat.Digits.Lemmas
import Mathlib.Order.Bounds.Basic
import GrapheneSigner.Proofs.Wire.Layout

/-!
# Counts delimit themselves

A count is written in the least number of groups of seven bits that hold it, at least one, and the
high bit tells where it ends.  So it is read back whatever stands behind it, and no count begins
with the bytes of another one.
-/

namespace GrapheneSigner

namespace Layout

theorem lt_of_mem_groups {n d : ℕ} (h : d ∈ groups n) : d < 128 := by
  unfold groups at h
  split at h
  · rw [List.mem_singleton.mp h]
    decide
  · exact Nat.digits_lt_base (by decide) h

/-- The last group is not zero, unless the number is. -/
theorem exists_getLast?_groups (n : ℕ) :
    ∃ d, (groups n).getLast? = some d ∧ d < 128 ∧ (d = 0 → n = 0) := by
  have hlast := List.getLast?_eq_some_getLast (groups_ne_nil n)
  refine ⟨_, hlast, lt_of_mem_groups (List.getLast_mem _), ?_⟩
  intro hzero
  by_contra hn
  have hdigits : groups n = Nat.digits 128 n := if_neg hn
  simp only [hdigits] at hzero
  exact Nat.getLast_digit_ne_zero 128 hn hzero

/-- A number has no more groups than hold it, and at least one. -/
theorem length_groups_le_iff {n k : ℕ} : (groups n).length ≤ k ↔ 1 ≤ k ∧ n < 2 ^ (7 * k) := by
  rw [pow_mul, show 2 ^ 7 = 128 from rfl]
  by_cases hn : n = 0
  · rw [groups, if_pos hn, List.length_singleton, hn]
    exact (and_iff_left (by positivity)).symm
  · rw [groups, if_neg hn, Nat.digits_length_le_iff (by decide)]
    refine (and_iff_right_of_imp ?_).symm
    intro h
    by_contra hk
    rw [Nat.lt_one_iff.mp (not_le.mp hk), pow_zero] at h
    exact hn (Nat.lt_one_iff.mp h)

/-- A count has one byte for each group. -/
theorem length_count (n : ℕ) : (count n).length = (groups n).length := by
  obtain ⟨d, hlast, -⟩ := exists_getLast?_groups n
  have hpos := List.length_pos_of_ne_nil (groups_ne_nil n)
  rw [count, hlast, List.length_append, List.length_map, List.length_dropLast, Option.toList_some,
    List.length_map, List.length_singleton]
  omega

end Layout

namespace Varint

/-- The number of bytes is the least number of groups of seven bits that hold the count. -/
theorem isLeast_length_encode (n : ℕ) :
    IsLeast {k | 1 ≤ k ∧ n < 2 ^ (7 * k)} (encode n).length := by
  rw [Layout.encode_eq_count, Layout.length_count]
  refine ⟨Layout.length_groups_le_iff.mp le_rfl, ?_⟩
  intro k hk
  exact Layout.length_groups_le_iff.mpr hk

/-- Exactly the last byte has no high bit, and it is not zero unless the count is. -/
theorem exists_encode_eq_concat (n : ℕ) :
    ∃ init last, encode n = init ++ [last] ∧ (∀ x ∈ init, 128 ≤ x.toNat) ∧ last.toNat < 128 ∧
      (last = 0 → n = 0) := by
  obtain ⟨d, hlast, hd, hzero⟩ := Layout.exists_getLast?_groups n
  have hbyte : (UInt8.ofNat d).toNat = d := Text.toNat_ofNat (by omega)
  rw [Layout.encode_eq_count, Layout.count, hlast]
  refine ⟨_, UInt8.ofNat d, rfl, ?_, by rwa [hbyte], ?_⟩
  · intro x hx
    obtain ⟨d', hd', rfl⟩ := List.mem_map.mp hx
    have hlt := Layout.lt_of_mem_groups (List.mem_of_mem_dropLast hd')
    rw [Text.toNat_ofNat (by omega)]
    omega
  · intro h
    apply hzero
    rw [← hbyte, h]
    rfl

/-- A count that begins with the bytes of another one is the other one. -/
theorem encode_prefix_iff {m n : ℕ} : encode m <+: encode n ↔ m = n := by
  constructor
  · rintro ⟨rest, hrest⟩
    have hm := decode?_encode_append m rest
    have hn := decode?_encode_append n []
    rw [List.append_nil, ← hrest, hm] at hn
    exact congrArg Prod.fst (Option.some.inj hn)
  · rintro rfl
    exact List.prefix_rfl

end Varint

namespace Call

theorem encode_varint {n : ℕ} (h : n < 2 ^ 64) (field : Option Text) :
    (varint (.int n) field).encode = .ok (Varint.encode n) := by
  have hbound : (0 : ℤ) ≤ n ∧ (n : ℤ) < varintBound := by
    rw [show varintBound = 2 ^ 64 from rfl]
    omega
  unfold encode
  dsimp only [Value.integer?]
  rw [if_pos hbound, Int.toNat_natCast]

/-- Counts below 2 to the power 64 are written as a minimal code that delimits itself.

A count is read back from its bytes, and reading leaves exactly what stands behind them.  All bytes
but the last have the high bit, and the last one has not; it is zero only if the count is.  There
are as many bytes as the least number of groups of seven bits that hold the count, from one to ten.
No count begins with the bytes of another one, so that different counts have different bytes. -/
theorem encode_varint_delimits_itself {n : ℕ} (h : n < 2 ^ 64) (field : Option Text) :
    ∃ b, (varint (.int n) field).encode = .ok b ∧
      (∀ rest, Varint.decode? (b ++ rest) = some (n, rest)) ∧
      (∃ init last, b = init ++ [last] ∧ (∀ x ∈ init, 128 ≤ x.toNat) ∧ last.toNat < 128 ∧
        (last = 0 → n = 0)) ∧
      IsLeast {k | 1 ≤ k ∧ n < 2 ^ (7 * k)} b.length ∧ 1 ≤ b.length ∧ b.length ≤ 10 ∧
      ∀ m : ℕ, m < 2 ^ 64 → ∀ b', (varint (.int m) field).encode = .ok b' →
        (b' <+: b ↔ m = n) ∧ (b' = b ↔ m = n) := by
  have hleast := Varint.isLeast_length_encode n
  have hten : n < 2 ^ (7 * 10) := h.trans (by decide)
  refine ⟨_, encode_varint h field, Varint.decode?_encode_append n,
    Varint.exists_encode_eq_concat n, hleast, hleast.1.1, hleast.2 ⟨by decide, hten⟩, ?_⟩
  intro m hm b' hb'
  rw [encode_varint hm field] at hb'
  cases hb'
  have hbegins := Varint.encode_prefix_iff (m := m) (n := n)
  refine ⟨hbegins, ⟨?_, by rintro rfl; rfl⟩⟩
  intro heq
  exact hbegins.mp (heq ▸ List.prefix_rfl)

/-- The greatest count takes all ten bytes, and no other count begins with them or is begun by
them. -/
theorem encode_varint_delimits_itself_greatest :
    2 ^ 64 - 1 < 2 ^ 64 ∧
      ∃ b, (varint (.int (2 ^ 64 - 1 : ℕ)) (some (lit "operations"))).encode = .ok b ∧
        (∀ rest, Varint.decode? (b ++ rest) = some (2 ^ 64 - 1, rest)) ∧
        b = List.replicate 9 0xff ++ [0x01] := by
  have hlt : 2 ^ 64 - 1 < 2 ^ 64 := by decide
  obtain ⟨b, hb, hread, -⟩ := encode_varint_delimits_itself hlt (some (lit "operations"))
  refine ⟨hlt, b, hb, hread, ?_⟩
  rw [encode_varint hlt, Layout.encode_eq_count] at hb
  cases hb
  decide +kernel

end Call

end GrapheneSigner
