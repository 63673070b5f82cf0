import GrapheneSigner.Collection.Ledger
import GrapheneSigner.Decimal.Shortest
import GrapheneSigner.Text.Hex
import GrapheneSigner.Value.Basic

/-!
# Values as JSON

Plain values are exchanged as JSON.  Numbers with a point or an exponent are floats, and all others
are integers of any size.  Of several members of one name the last one counts.  Two escapes that
form a surrogate pair are one code point; a lone surrogate is kept.
-/

namespace GrapheneSigner

namespace Json

/-- The code point of a character. -/
def sign (c : Char) : CodePoint := .ofChar c

def quote : CodePoint := .ofNat 0x22

def escape : CodePoint := .ofNat 0x5C

/-! ## Reading -/

/-- Blanks between the parts. -/
def isBlank (c : CodePoint) : Bool := [0x20, 0x09, 0x0A, 0x0D].contains c.val

/-- The text behind its blanks. -/
def skip (t : Text) : Text := t.dropWhile isBlank

def unescaped (c : CodePoint) : CodePoint :=
  if c = sign 'b' then .ofNat 0x08
  else if c = sign 'f' then .ofNat 0x0C
  else if c = sign 'n' then .ofNat 0x0A
  else if c = sign 'r' then .ofNat 0x0D
  else if c = sign 't' then .ofNat 0x09
  else c

/-- The code point of four hexadecimal digits. -/
def ofHex? (a b c d : CodePoint) : Option CodePoint := do
  let high := (← a.hexValue?) * 16 + (← b.hexValue?)
  let low := (← c.hexValue?) * 16 + (← d.hexValue?)
  return .ofNat (high * 256 + low)

/-- The code points up to the closing quotation mark, and the text behind it. -/
def readCodePoints : Text → Option (Text × Text)
  | [] => none
  | c :: rest =>
    if c = quote then some ([], rest)
    else if c = escape then
      match rest with
      | [] => none
      | letter :: rest =>
        if letter = sign 'u' then
          match rest with
          | a :: b :: c :: d :: rest =>
            match ofHex? a b c d, readCodePoints rest with
            | some c, some (t, rest) => some (c :: t, rest)
            | _, _ => none
          | _ => none
        else (readCodePoints rest).map fun (t, rest) ↦ (unescaped letter :: t, rest)
    else (readCodePoints rest).map fun (t, rest) ↦ (c :: t, rest)

/-- The code point of a surrogate pair. -/
def pair? (high low : CodePoint) : Option CodePoint :=
  if 0xD800 ≤ high.val ∧ high.val < 0xDC00 ∧ 0xDC00 ≤ low.val ∧ low.val < 0xE000 then
    some (.ofNat (0x10000 + (high.val - 0xD800) * 0x400 + (low.val - 0xDC00)))
  else none

/-- Joins the surrogate pairs of a text. -/
def joinPairs : Text → Text
  | [] => []
  | [c] => [c]
  | c :: d :: rest =>
    match pair? c d with
    | some joined => joined :: joinPairs rest
    | none => c :: joinPairs (d :: rest)

/-- A text up to its closing quotation mark, and what is behind it. -/
def readText (t : Text) : Option (Text × Text) :=
  (readCodePoints t).map fun (t, rest) ↦ (joinPairs t, rest)

def isNumeric (c : CodePoint) : Bool :=
  (0x30 ≤ c.val && c.val ≤ 0x39) || (lit "+-.eE").contains c

/-- The marks that make a number a float. -/
def isFloatMark (c : CodePoint) : Bool := (lit ".eE").contains c

def digits (t : Text) : Nat := t.foldl (fun n c ↦ n * 10 + (c.val - 0x30)) 0

def integer (t : Text) : Int :=
  match t with
  | c :: rest =>
    if c = sign '-' then -(digits rest : Int)
    else if c = sign '+' then digits rest
    else digits t
  | [] => 0

def number (t : Text) : Value :=
  if t.any isFloatMark then
    let negative := t.head? == some (sign '-')
    let t := if negative then t.drop 1 else t
    let isExponent := fun c ↦ c == sign 'e' || c == sign 'E'
    let (whole, fraction) := Text.cutAt (sign '.') (t.takeWhile (!isExponent ·))
    let exponent := integer ((t.dropWhile (!isExponent ·)).drop 1)
    .float (Binary64.ofDecimal negative (digits (whole ++ fraction)) (exponent - fraction.length))
  else .int (integer t)

/-- The values that are written as words. -/
def words : List (Text × Value) :=
  [(lit "null", .null), (lit "true", .bool true), (lit "false", .bool false),
    (lit "NaN", .float .notANumber), (lit "Infinity", .float (.infinite false)),
    (lit "-Infinity", .float (.infinite true))]

/-- A word or a number, and what is behind it. -/
def readScalar (t : Text) : Option (Value × Text) :=
  match words.find? fun (word, _) ↦ word.isPrefixOf t with
  | some (word, v) => some (v, t.drop word.length)
  | none =>
    let numeral := t.takeWhile isNumeric
    if numeral.isEmpty then none else some (number numeral, t.dropWhile isNumeric)

mutual

/-- A value that begins within `fuel` code points, and what is behind it. -/
def readValue (fuel : Nat) (t : Text) : Option (Value × Text) :=
  match fuel, skip t with
  | 0, _ => none
  | _, [] => none
  | fuel + 1, c :: rest =>
    if c = quote then (readText rest).map fun (t, rest) ↦ (.chars t, rest)
    else if c.val = 0x7B then (readMembers fuel [] rest).map fun (es, rest) ↦ (.table es, rest)
    else if c = sign '[' then (readItems fuel rest).map fun (vs, rest) ↦ (.list vs, rest)
    else readScalar (c :: rest)

/-- The values up to a closing bracket; commas between them are skipped. -/
def readItems (fuel : Nat) (t : Text) : Option (List Value × Text) :=
  match fuel, skip t with
  | 0, _ => none
  | _, [] => none
  | fuel + 1, c :: rest =>
    if c = sign ']' then some ([], rest)
    else if c = sign ',' then readItems fuel rest
    else
      match readValue fuel (c :: rest) with
      | some (v, rest) => (readItems fuel rest).map fun (vs, rest) ↦ (v :: vs, rest)
      | none => none

/-- The members up to a closing brace, entered behind the ones found before. -/
def readMembers (fuel : Nat) (found : Ledger Text Value) (t : Text) :
    Option (Ledger Text Value × Text) :=
  match fuel, skip t with
  | 0, _ => none
  | _, [] => none
  | fuel + 1, c :: rest =>
    if c.val = 0x7D then some (found, rest)
    else if c = sign ',' then readMembers fuel found rest
    else if c = quote then
      match readText rest with
      | none => none
      | some (name, rest) =>
        match skip rest with
        | colon :: rest =>
          if colon = sign ':' then
            match readValue fuel rest with
            | some (v, rest) => readMembers fuel (found.put name v) rest
            | none => none
          else none
        | [] => none
    else none

end

def read? (t : Text) : Option Value := (readValue (2 * t.length + 2) t).map (·.1)

/-! ## Writing -/

/-- An escape with four hexadecimal digits. -/
def unicodeEscape (n : Nat) : Text := escape :: sign 'u' :: Text.hexPadded 4 n

/-- A code point inside quotation marks, in ASCII. -/
def writeCodePoint (c : CodePoint) : Text :=
  if c = quote ∨ c = escape then [escape, c]
  else if 0x20 ≤ c.val ∧ c.val < 0x7F then [c]
  else if c.val < 0x10000 then unicodeEscape c.val
  else
    unicodeEscape (0xD800 + (c.val - 0x10000) / 0x400)
      ++ unicodeEscape (0xDC00 + (c.val - 0x10000) % 0x400)

def writeText (t : Text) : Text := quote :: t.flatMap writeCodePoint ++ [quote]

/-- A float; those that are no numbers are words. -/
def writeFloat (x : Binary64) : Text :=
  match x with
  | .notANumber => lit "NaN"
  | .infinite negative => lit (if negative then "-Infinity" else "Infinity")
  | x => x.shortest

mutual

/-- A plain value; typed values stand as nothing. -/
def write : Value → Text
  | .null => lit "null"
  | .bool b => lit (if b then "true" else "false")
  | .int i => Text.ofInt i
  | .float x => writeFloat x
  | .chars t => writeText t
  | .list vs => lit "[" ++ Text.join (lit ",") (writeItems vs) ++ lit "]"
  | .tuple vs => lit "[" ++ Text.join (lit ",") (writeItems vs) ++ lit "]"
  | .table es => .ofNat 0x7B :: Text.join (lit ",") (writeMembers es) ++ [.ofNat 0x7D]
  | .bytes _ => lit "null"
  | .account _ => lit "null"
  | .asset _ => lit "null"
  | .time _ => lit "null"
  | .extension _ => lit "null"
  | .clock _ => lit "null"
  | .object _ => lit "null"

def writeItems : List Value → List Text
  | [] => []
  | v :: vs => write v :: writeItems vs

def writeMembers : List (Text × Value) → List Text
  | [] => []
  | e :: es => writeMember e :: writeMembers es

def writeMember : Text × Value → Text
  | (name, v) => writeText name ++ lit ":" ++ write v

end

end Json

end GrapheneSigner
