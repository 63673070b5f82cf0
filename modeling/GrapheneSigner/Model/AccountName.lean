import GrapheneSigner.Model.Vocabulary

/-!
# Account names

An account name has 3 to 16 characters and consists of segments with points between them.  A
segment has at least three characters, begins with a lower case letter, goes on with lower case
letters, digits and dashes, and ends with a letter or a digit.  One line feed at the end of a
segment is let pass and counts as a character.
-/

namespace GrapheneSigner

namespace AccountName

def isLetter (c : CodePoint) : Bool := 0x61 ≤ c.val && c.val ≤ 0x7A

def isDigit (c : CodePoint) : Bool := 0x30 ≤ c.val && c.val ≤ 0x39

/-- What may stand inside a segment. -/
def isInner (c : CodePoint) : Bool := isLetter c || isDigit c || c.val == 0x2D

/-- What a segment may end with. -/
def isFinal (c : CodePoint) : Bool := isLetter c || isDigit c

/-- A segment after its first letter: inner characters up to a final one. -/
def isTail : Text → Bool
  | [] => false
  | [c] => isFinal c
  | c :: d :: rest => isInner c && isTail (d :: rest)

/-- A letter with a tail behind it. -/
def isWord : Text → Bool
  | [] => false
  | c :: rest => isLetter c && isTail rest

def lineFeed : CodePoint := .ofNat 0x0A

/-- A word of at least three characters; a line feed at its end counts as one. -/
def isSegment (t : Text) : Bool :=
  3 ≤ t.length && (isWord t || (t.getLast? == some lineFeed && isWord t.dropLast))

/-- The point between segments. -/
def point : CodePoint := .ofNat 0x2E

/-- Why a text is no account name; `none` if it is one. -/
def fault? (t : Text) : Option Text :=
  if t.length < 3 ∨ 16 < t.length then
    some (lit "Account name '" ++ t ++ lit "' must be between 3 and 16 characters long")
  else
    ((Text.splitOn point t).find? fun segment ↦ !isSegment segment).map fun segment ↦
      lit "Account name '" ++ t ++ lit "' contains the invalid segment '" ++ segment ++ lit "'"

end AccountName

structure AccountName where
  /-- The text of the name. -/
  name : Text
  /-- The text follows the rules. -/
  accepted : AccountName.fault? name = none
  deriving DecidableEq

namespace AccountName

@[ext]
theorem ext {a b : AccountName} (h : a.name = b.name) : a = b := by
  cases a; cases b; simp_all

/-- The account name of a text, or why there is none. -/
def read (t : Text) : Except Text AccountName :=
  match h : fault? t with
  | none => .ok ⟨t, h⟩
  | some message => .error message

theorem read_eq_ok_iff {t : Text} {a : AccountName} : read t = .ok a ↔ a.name = t := by
  unfold read
  split
  · constructor
    · rintro ⟨⟩; rfl
    · intro h; congr 1; exact ext h.symm
  · rename_i message h
    constructor
    · intro h'; cases h'
    · rintro rfl; rw [a.accepted] at h; cases h

end AccountName

end GrapheneSigner
