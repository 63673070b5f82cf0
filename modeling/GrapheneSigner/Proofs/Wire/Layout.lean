import Mathlib.Data.Nat.Digits.Defs
import GrapheneSigner.Proofs.Wire.Decoder

/-!
# Layouts

What a call appends is laid out by rules that say nothing about writers: counts are digits to the
base 128, texts stand behind the number of their bytes, and integers have a fixed width.  A writing
lays out bytes if it has these bytes whenever it succeeds; the parts of a layout follow one another
as the parts of a writing do.
-/

namespace GrapheneSigner

namespace Layout

/-- The digits of a number to the base 128, of which there is at least one. -/
def groups (n : Nat) : List Nat := if n = 0 then [0] else Nat.digits 128 n

/-- A count: its digits to the base 128, the least one first, each of which but the last has the
high bit. -/
def count (n : Nat) : Bytes :=
  (groups n).dropLast.map (fun d ↦ UInt8.ofNat (d + 0x80))
    ++ (groups n).getLast?.toList.map UInt8.ofNat

/-- An integer in two's complement, the least byte first. -/
def int (width : Nat) (i : Int) : Bytes := littleEndian width (i % byteRange width).toNat

/-- A text: the number of its bytes, and the bytes. -/
def text (t : Text) : Bytes := count t.utf8.length ++ t.utf8

theorem groups_of_lt {n : Nat} (h : n < 128) : groups n = [n] := by
  unfold groups
  by_cases hzero : n = 0
  · rw [if_pos hzero, hzero]
  · rw [if_neg hzero, Nat.digits_of_lt 128 n hzero h]

theorem groups_of_le {n : Nat} (h : 128 ≤ n) : groups n = n % 128 :: groups (n / 128) := by
  have hrest : n / 128 ≠ 0 := by omega
  rw [groups, if_neg (by omega), groups, if_neg hrest, Nat.digits_def' (by decide) (by omega)]

theorem groups_ne_nil (n : Nat) : groups n ≠ [] := by
  rcases Nat.lt_or_ge n 128 with hlt | hle
  · rw [groups_of_lt hlt]
    exact List.cons_ne_nil _ _
  · rw [groups_of_le hle]
    exact List.cons_ne_nil _ _

/-- The groups of seven bits that are written are the digits to the base 128. -/
theorem encode_eq_count (n : Nat) : Varint.encode n = count n := by
  fun_induction Varint.encode n with
  | case1 n h =>
    rw [count, groups_of_lt h]
    rfl
  | case2 n h ih =>
    obtain ⟨d, rest, hrest⟩ := List.exists_cons_of_ne_nil (groups_ne_nil (n / 128))
    rw [ih, count, count, groups_of_le (Nat.le_of_not_lt h), hrest]
    rfl

end Layout

namespace Writing

/-- The writing has these bytes if it has any. -/
def LaysOut (x : Writing) (b : Bytes) : Prop := ∀ b', x.encode = .ok b' → b' = b

theorem LaysOut.append {x y : Writing} {b b' : Bytes} (hx : x.LaysOut b) (hy : y.LaysOut b') :
    (x ++ y).LaysOut (b ++ b') := by
  intro bytes h
  obtain ⟨before, behind, hbefore, hbehind, rfl⟩ := exists_of_encode_append h
  rw [hx before hbefore, hy behind hbehind]

theorem laysOut_flatMap {α : Type} {as : List α} {write : α → Writing} {layout : α → Bytes}
    (h : ∀ a ∈ as, (write a).LaysOut (layout a)) :
    LaysOut (as.flatMap write) (as.flatMap layout) := by
  induction as with
  | nil =>
    intro b hb
    cases hb
    rfl
  | cons a rest ih =>
    rw [List.flatMap_cons, List.flatMap_cons]
    exact (h a List.mem_cons_self).append (ih fun a' ha' ↦ h a' (List.mem_cons_of_mem _ ha'))

theorem laysOut_fixed (w : WireInt) {v : Value} {i : Int} (hv : v.integer? = some i)
    (field : Option Text) : LaysOut [.ok (.fixed w v field)] (Layout.int w.width i) := by
  intro b hb
  obtain ⟨i', hi', _, _, rfl⟩ := Call.exists_of_encode_fixed (encode_of_encode_singleton hb)
  rw [hv, Option.some.injEq] at hi'
  rw [← hi']
  rfl

theorem laysOut_varint (n : Nat) (field : Option Text) :
    LaysOut [.ok (.varint (.int n) field)] (Layout.count n) := by
  intro b hb
  have hcall := encode_of_encode_singleton hb
  simp only [Call.encode, Value.integer?] at hcall
  split at hcall
  · cases hcall
    exact Layout.encode_eq_count n
  · cases hcall

theorem laysOut_chars (t : Text) (field : Option Text) :
    LaysOut [.ok (.chars (.chars t) field)] (Layout.text t) := by
  intro b hb
  have hcall := encode_of_encode_singleton hb
  unfold Call.encode at hcall
  dsimp only at hcall
  cases hutf8 : t.utf8? with
  | none =>
    rw [hutf8] at hcall
    cases hcall
  | some bytes =>
    rw [hutf8] at hcall
    cases hcall
    obtain ⟨_, rfl⟩ := Text.utf8?_eq_some_iff.mp hutf8
    rw [Layout.encode_eq_count]
    rfl

theorem laysOut_raw (b : Bytes) : LaysOut [.ok (.raw (.bytes b))] b := by
  intro b' hb'
  cases encode_of_encode_singleton hb'
  rfl

end Writing

end GrapheneSigner
