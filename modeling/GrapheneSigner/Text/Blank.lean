import GrapheneSigner.Text.Basic

/-!
# Blank code points

Three classes of white space occur in the formats of this library: the six ASCII blanks, the
Unicode white space, and the Unicode white space together with the four information separators
U+001C to U+001F.
-/

namespace GrapheneSigner

namespace CodePoint

/-- Space, tab, line feed, vertical tab, form feed and carriage return. -/
def isAsciiBlank (c : CodePoint) : Bool := c.val == 0x20 || (0x09 ≤ c.val && c.val ≤ 0x0D)

/-- The code points of the Unicode property White_Space. -/
def isWhite (c : CodePoint) : Bool :=
  c.isAsciiBlank || [0x85, 0xA0, 0x1680, 0x2028, 0x2029, 0x202F, 0x205F, 0x3000].contains c.val
    || (0x2000 ≤ c.val && c.val ≤ 0x200A)

/-- White space and the information separators U+001C to U+001F. -/
def isBlank (c : CodePoint) : Bool := c.isWhite || (0x1C ≤ c.val && c.val ≤ 0x1F)

end CodePoint

namespace Text

def trimEnd (blank : CodePoint → Bool) (t : Text) : Text := (t.reverse.dropWhile blank).reverse

def trim (blank : CodePoint → Bool) (t : Text) : Text := trimEnd blank (t.dropWhile blank)

end Text

end GrapheneSigner
