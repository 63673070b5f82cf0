import GrapheneSigner.Text.Basic

/-!
# Integers on the wire

Integers of fixed width are written with the least byte first, negative ones in two's complement;
digests and signatures write theirs with the greatest byte first.  Counts and tags are written in
groups of seven bits, the least group first, where the high bit of a byte says that more follow.
-/

namespace GrapheneSigner

/-- The `width` lowest bytes of `n`, the least byte first. -/
def littleEndian : Nat → Nat → Bytes
  | 0, _ => []
  | width + 1, n => UInt8.ofNat (n % 256) :: littleEndian width (n / 256)

/-- The number of a byte string with the least byte first. -/
def ofLittleEndian : Bytes → Nat
  | [] => 0
  | b :: rest => b.toNat + 256 * ofLittleEndian rest

@[simp]
theorem length_littleEndian (width n : Nat) : (littleEndian width n).length = width := by
  induction width generalizing n with
  | zero => rfl
  | succ width ih => simp [littleEndian, ih]

/-- The number of byte strings of a width: integers below it fit into that many bytes. -/
def byteRange (width : Nat) : Nat := Nat.pow 256 width

@[simp]
theorem byteRange_zero : byteRange 0 = 1 := rfl

theorem byteRange_succ (width : Nat) : byteRange (width + 1) = 256 * byteRange width :=
  Nat.mul_comm ..

theorem ofLittleEndian_littleEndian (width n : Nat) :
    ofLittleEndian (littleEndian width n) = n % byteRange width := by
  induction width generalizing n with
  | zero => simp [littleEndian, ofLittleEndian, Nat.mod_one]
  | succ width ih =>
    have h : (UInt8.ofNat (n % 256)).toNat = n % 256 := by simp
    simp only [littleEndian, ofLittleEndian, ih, h]
    rw [byteRange_succ, Nat.mod_mul]

/-- The `width` lowest bytes of `n`, the greatest byte first. -/
def bigEndian (width n : Nat) : Bytes := (littleEndian width n).reverse

/-- The number of a byte string with the greatest byte first. -/
def ofBigEndian (b : Bytes) : Nat := b.foldl (fun n x ↦ n * 256 + x.toNat) 0

@[simp]
theorem length_bigEndian (width n : Nat) : (bigEndian width n).length = width := by
  simp [bigEndian]

namespace Varint

/-- The groups of seven bits of `n`, the least group first. -/
def encode (n : Nat) : Bytes :=
  if n < 0x80 then [UInt8.ofNat n] else UInt8.ofNat (n % 0x80 + 0x80) :: encode (n / 0x80)
termination_by n
decreasing_by omega

/-- Reads groups of seven bits up to the first byte without high bit. -/
def decode? : Bytes → Option (Nat × Bytes)
  | [] => none
  | b :: rest =>
    if b.toNat < 0x80 then some (b.toNat, rest)
    else (decode? rest).map fun (n, rest) ↦ (b.toNat - 0x80 + 0x80 * n, rest)

theorem decode?_encode_append (n : Nat) (rest : Bytes) :
    decode? (encode n ++ rest) = some (n, rest) := by
  fun_induction encode n with
  | case1 n h =>
    have hb : (UInt8.ofNat n).toNat = n := by simp; omega
    simp [decode?, hb, h]
  | case2 n h ih =>
    have hb : (UInt8.ofNat (n % 0x80 + 0x80)).toNat = n % 0x80 + 0x80 := by simp; omega
    simp only [List.cons_append, decode?, hb, ih]
    rw [if_neg (by omega)]
    simp only [Option.map_some, Option.some.injEq, Prod.mk.injEq, and_true]
    omega

end Varint

/-- The integer types of fixed width. -/
inductive WireInt where
  | u8
  | u16
  | i16
  | u32
  | i64
  deriving DecidableEq

namespace WireInt

def width : WireInt → Nat
  | u8 => 1
  | u16 => 2
  | i16 => 2
  | u32 => 4
  | i64 => 8

/-- Whether negative integers belong to the type. -/
def signed : WireInt → Bool
  | i16 => true
  | i64 => true
  | _ => false

def least (w : WireInt) : Int := if w.signed then -(byteRange w.width / 2 : Nat) else 0

def greatest (w : WireInt) : Int :=
  (if w.signed then byteRange w.width / 2 else byteRange w.width : Nat) - 1

/-- The sign by which messages name the type. -/
def sign : WireInt → Text
  | u8 => lit "<B"
  | u16 => lit "<H"
  | i16 => lit "<h"
  | u32 => lit "<I"
  | i64 => lit "<q"

/-- The bytes of an integer of the type. -/
def encode (w : WireInt) (i : Int) : Bytes :=
  littleEndian w.width (i.emod (byteRange w.width)).toNat

/-- The bytes of an integer, if it is of the type. -/
def encode? (w : WireInt) (i : Int) : Option Bytes :=
  if w.least ≤ i ∧ i ≤ w.greatest then some (w.encode i) else none

end WireInt

end GrapheneSigner
