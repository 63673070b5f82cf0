import GrapheneSigner.Text.Blank

/-!
# Hexadecimal byte strings

Bytes are written as two lower case digits each.  Reading accepts both letter cases and ASCII
blanks between the pairs, but not inside one.  A text that is no hexadecimal byte string has a
fault position: the first code point that cannot stand where it stands, which is the end of the
text when a pair is cut short, and the first code point outside ASCII when there is one.
-/

namespace GrapheneSigner

def Bytes.hex (b : Bytes) : Text :=
  b.flatMap fun x ↦ [CodePoint.hexDigit (x.toNat / 16), CodePoint.hexDigit (x.toNat % 16)]

@[simp]
theorem Bytes.hex_nil : Bytes.hex [] = [] := rfl

@[simp]
theorem Bytes.hex_append (a b : Bytes) : Bytes.hex (a ++ b) = Bytes.hex a ++ Bytes.hex b := by
  simp [Bytes.hex]

/-- The value of a hexadecimal digit in either letter case. -/
def CodePoint.hexValue? (c : CodePoint) : Option Nat :=
  if 0x30 ≤ c.val ∧ c.val ≤ 0x39 then some (c.val - 0x30)
  else if 0x41 ≤ c.val ∧ c.val ≤ 0x46 then some (c.val - 0x41 + 10)
  else if 0x61 ≤ c.val ∧ c.val ≤ 0x66 then some (c.val - 0x61 + 10)
  else none

namespace Hex

/-- Reads pairs from position `pos` on; the error is the position of the first fault. -/
def readFrom (pos : Nat) : Text → Except Nat Bytes
  | [] => .ok []
  | c :: rest =>
    if c.isAsciiBlank then readFrom (pos + 1) rest
    else match c.hexValue? with
      | none => .error pos
      | some high =>
        match rest with
        | [] => .error (pos + 1)
        | d :: rest =>
          match d.hexValue? with
          | none => .error (pos + 1)
          | some low => do
            let bytes ← readFrom (pos + 2) rest
            return UInt8.ofNat (high * 16 + low) :: bytes

/-- The bytes of a hexadecimal text, or the position of its fault. -/
def read (t : Text) : Except Nat Bytes :=
  if t.all (·.val < 0x80) then readFrom 0 t
  else .error (t.takeWhile (·.val < 0x80)).length

theorem asciiLower_val (c : CodePoint) :
    c.asciiLower.val = if 0x41 ≤ c.val ∧ c.val ≤ 0x5A then c.val + 0x20 else c.val := by
  unfold CodePoint.asciiLower
  split
  · rw [CodePoint.val_ofNat (by omega)]
  · rfl

theorem hexValue?_asciiLower (c : CodePoint) : c.asciiLower.hexValue? = c.hexValue? := by
  simp only [CodePoint.hexValue?, asciiLower_val]
  grind

theorem isAsciiBlank_asciiLower (c : CodePoint) : c.asciiLower.isAsciiBlank = c.isAsciiBlank := by
  simp only [CodePoint.isAsciiBlank, asciiLower_val]
  grind

theorem readFrom_map_asciiLower (pos : Nat) (t : Text) :
    readFrom pos (t.map CodePoint.asciiLower) = readFrom pos t := by
  fun_induction readFrom pos t <;>
    simp_all [readFrom, hexValue?_asciiLower, isAsciiBlank_asciiLower]

/-- The letter case of a hexadecimal text does not matter. -/
theorem read_map_asciiLower (t : Text) : read (t.map CodePoint.asciiLower) = read t := by
  have hlt (c : CodePoint) : (decide (c.asciiLower.val < 0x80)) = decide (c.val < 0x80) := by
    rw [asciiLower_val]
    grind
  have htake : ((t.map CodePoint.asciiLower).takeWhile fun c ↦ decide (c.val < 0x80)).length
      = (t.takeWhile fun c ↦ decide (c.val < 0x80)).length := by
    induction t with
    | nil => rfl
    | cons c rest ih =>
      simp only [List.map_cons, List.takeWhile_cons, hlt]
      split <;> simp [ih]
  have hall : ((t.map CodePoint.asciiLower).all fun c ↦ decide (c.val < 0x80))
      = t.all fun c ↦ decide (c.val < 0x80) := by
    simp [List.all_map, Function.comp_def, hlt]
  simp only [read, readFrom_map_asciiLower, htake, hall]

def isHex (t : Text) : Bool := (read t).toOption.isSome

/-- Says where a text fails to be a hexadecimal byte string. -/
def faultMessage (pos : Nat) : Text :=
  lit "non-hexadecimal number found in fromhex() arg at position " ++ Text.ofNat pos

end Hex

end GrapheneSigner
