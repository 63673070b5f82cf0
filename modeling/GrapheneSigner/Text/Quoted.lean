import GrapheneSigner.Text.Printable

/-!
# Quoted texts

Messages show texts and byte strings between quotes.  The quote is the apostrophe, or the double
quote when there is an apostrophe inside and no double quote.  The backslash, the quote in use,
tab, line feed and carriage return are written with a backslash; everything else that is not
printable is written by its number, with two, four or eight hexadecimal digits.
-/

namespace GrapheneSigner

def apostrophe : CodePoint := .ofNat 0x27

def doubleQuote : CodePoint := .ofNat 0x22

/-- The quote in which a sequence of code points is shown. -/
def quoteFor (t : Text) : CodePoint :=
  if t.contains apostrophe && !t.contains doubleQuote then doubleQuote else apostrophe

namespace CodePoint

/-- The escapes of one letter: backslash, the quote in use, tab, line feed, carriage return. -/
def shortEscape? (quote c : CodePoint) : Option Text :=
  if c = quote ∨ c.val = 0x5C then some [.ofNat 0x5C, c]
  else if c.val = 0x09 then some (lit "\\t")
  else if c.val = 0x0A then some (lit "\\n")
  else if c.val = 0x0D then some (lit "\\r")
  else none

/-- A code point as it stands between quotes of a text. -/
def quoted (quote c : CodePoint) : Text :=
  match shortEscape? quote c with
  | some t => t
  | none =>
    if c.isPrintable then [c]
    else if c.val < 0x100 then lit "\\x" ++ Text.hexPadded 2 c.val
    else if c.val < 0x10000 then lit "\\u" ++ Text.hexPadded 4 c.val
    else lit "\\U" ++ Text.hexPadded 8 c.val

/-- A byte as it stands between quotes of a byte string: only ASCII is shown as it is. -/
def quotedByte (quote c : CodePoint) : Text :=
  match shortEscape? quote c with
  | some t => t
  | none =>
    if 0x20 ≤ c.val ∧ c.val < 0x7F then [c] else lit "\\x" ++ Text.hexPadded 2 c.val

end CodePoint

def Text.quoted (t : Text) : Text :=
  let quote := quoteFor t
  [quote] ++ t.flatMap (CodePoint.quoted quote) ++ [quote]

/-- A byte string between quotes, marked by a leading `b`. -/
def Bytes.quoted (b : Bytes) : Text :=
  let points := b.map fun x ↦ CodePoint.ofNat x.toNat
  let quote := quoteFor points
  lit "b" ++ [quote] ++ points.flatMap (CodePoint.quotedByte quote) ++ [quote]

end GrapheneSigner
