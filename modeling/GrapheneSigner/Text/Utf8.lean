import GrapheneSigner.Text.Basic

/-!
# UTF-8

Every code point has its bytes, one to four of them.  A text is encodable when it holds no
surrogate; `Text.utf8?` refuses all others, and `Text.utf8Fault` names the first run of
surrogates.  Reading is strict: no surrogate, no overlong form and nothing above U+10FFFF is
accepted.
-/

namespace GrapheneSigner

/-- The bytes of one code point, by its size class. -/
def CodePoint.utf8 (c : CodePoint) : Bytes :=
  let n := c.val
  if n < 0x80 then [UInt8.ofNat n]
  else if n < 0x800 then
    [UInt8.ofNat (0xC0 + n / 0x40), UInt8.ofNat (0x80 + n % 0x40)]
  else if n < 0x10000 then
    [UInt8.ofNat (0xE0 + n / 0x1000), UInt8.ofNat (0x80 + n / 0x40 % 0x40),
      UInt8.ofNat (0x80 + n % 0x40)]
  else
    [UInt8.ofNat (0xF0 + n / 0x40000), UInt8.ofNat (0x80 + n / 0x1000 % 0x40),
      UInt8.ofNat (0x80 + n / 0x40 % 0x40), UInt8.ofNat (0x80 + n % 0x40)]

namespace Text

/-- A text without surrogates. -/
def isEncodable (t : Text) : Bool := t.all fun c ↦ !c.isSurrogate

/-- The bytes of a text, code point by code point. -/
def utf8 (t : Text) : Bytes := t.flatMap CodePoint.utf8

/-- The bytes of an encodable text; a text with a surrogate has none. -/
def utf8? (t : Text) : Option Bytes := if t.isEncodable then some t.utf8 else none

theorem utf8?_eq_some_iff {t : Text} {b : Bytes} :
    t.utf8? = some b ↔ t.isEncodable = true ∧ b = t.utf8 := by
  unfold utf8?
  by_cases h : t.isEncodable = true <;> simp [h, eq_comm]

@[simp]
theorem utf8_nil : utf8 [] = [] := rfl

@[simp]
theorem utf8_append (s t : Text) : utf8 (s ++ t) = utf8 s ++ utf8 t := by
  simp [utf8]

/-- Says why a text is not encodable: its first run of surrogates, by position. -/
def utf8Fault (t : Text) : Text :=
  let start := (t.takeWhile fun c ↦ !c.isSurrogate).length
  let run := (t.drop start).takeWhile CodePoint.isSurrogate
  match run with
  | [c] => lit "'utf-8' codec can't encode character '\\u" ++ hexPadded 4 c.val
      ++ lit "' in position " ++ ofNat start ++ lit ": surrogates not allowed"
  | _ => lit "'utf-8' codec can't encode characters in position " ++ ofNat start ++ lit "-"
      ++ ofNat (start + run.length - 1) ++ lit ": surrogates not allowed"

/-- The code point of a number, unless the number is a surrogate or too large. -/
def scalar? (n : Nat) : Option CodePoint :=
  if h : n < 0x110000 then
    let c : CodePoint := ⟨n, h⟩
    if c.isSurrogate then none else some c
  else none

/-- The six bits of a continuation byte. -/
def continuation? (b : UInt8) : Option Nat :=
  if 0x80 ≤ b.toNat ∧ b.toNat < 0xC0 then some (b.toNat - 0x80) else none

/-- Reads UTF-8; a shorter form of the same code point must not exist. -/
def ofUtf8? : Bytes → Option Text
  | [] => some []
  | a :: rest =>
    if a.toNat < 0x80 then do
      let c ← scalar? a.toNat
      return c :: (← ofUtf8? rest)
    else if a.toNat < 0xE0 then
      match rest with
      | b :: rest => do
        let n := (a.toNat - 0xC0) * 0x40 + (← continuation? b)
        if a.toNat < 0xC0 ∨ n < 0x80 then none else
        return (← scalar? n) :: (← ofUtf8? rest)
      | _ => none
    else if a.toNat < 0xF0 then
      match rest with
      | b :: c :: rest => do
        let n := ((a.toNat - 0xE0) * 0x40 + (← continuation? b)) * 0x40 + (← continuation? c)
        if n < 0x800 then none else
        return (← scalar? n) :: (← ofUtf8? rest)
      | _ => none
    else
      match rest with
      | b :: c :: d :: rest => do
        let n := (((a.toNat - 0xF0) * 0x40 + (← continuation? b)) * 0x40
          + (← continuation? c)) * 0x40 + (← continuation? d)
        if n < 0x10000 then none else
        return (← scalar? n) :: (← ofUtf8? rest)
      | _ => none

end Text

end GrapheneSigner
