import GrapheneSigner.Text.Utf8

/-!
# Issues

An issue says which rule a part of some input breaks, and where that part is: names lead into
fields, and indices into lists.  Rules that are stated in words carry their message.
-/

namespace GrapheneSigner

/-- One step into an input. -/
inductive Step where
  | field (name : Text)
  | index (n : Nat)
  deriving DecidableEq

/-- The rules that a part of an input can break. -/
inductive Rule where
  /-- The part is no integer and cannot be read as one. -/
  | notAnInteger
  /-- The text is no integer numeral. -/
  | notANumeral
  /-- The numeral or the float is too large. -/
  | tooLarge
  /-- The float is infinite or no number. -/
  | notFinite
  /-- The float has a fractional part. -/
  | fractional
  /-- The integer is below the least one allowed. -/
  | tooSmall
  /-- The integer is above the greatest one allowed. -/
  | tooGreat
  /-- The integer is not above the bound. -/
  | notAbove
  /-- The part is no truth value and cannot be read as one. -/
  | notATruthValue
  /-- The number or the text is no spelling of a truth value. -/
  | notATruthWord
  /-- The part is no text. -/
  | notAText
  /-- The text or the bytes are not Unicode text. -/
  | notUnicode
  /-- The part is no list. -/
  | notAList
  /-- The part is neither of the type asked for nor a table of its fields. -/
  | notAModel
  /-- The part is no member of the vocabulary. -/
  | notAMember
  /-- The part cannot be called. -/
  | notCallable
  /-- The part is absent and has no default. -/
  | missing
  /-- The value cannot be changed. -/
  | frozen
  /-- There is no attribute of this name. -/
  | noAttribute
  /-- A rule in words. -/
  | violated (message : Text)
  deriving DecidableEq

/-- A broken rule and the path to the part that breaks it. -/
structure Issue where
  rule : Rule
  path : List Step
  deriving DecidableEq

namespace Issue

/-- The issue seen from one step further out. -/
def behind (step : Step) (issue : Issue) : Issue := { issue with path := step :: issue.path }

end Issue

end GrapheneSigner
