import GrapheneSigner.Failure.Basic

/-!
# Readings

Input is read field by field.  A field that breaks rules gives issues, and reading goes on with
the next field, so that all issues are reported together in the order of the fields.  A foreign
failure ends the reading at once and takes the place of the issues.
-/

namespace GrapheneSigner

/-- The result of reading a part of an input. -/
inductive Reading (α : Type) where
  | ok (value : α)
  | issues (found : List Issue)
  | abort (cause : Foreign)

namespace Reading

variable {α β : Type}

def issue (rule : Rule) : Reading α :=
  match rule with
  | .violated message =>
    if message.isEncodable then .issues [⟨.violated message, []⟩] else .abort .unencodable
  | rule => .issues [⟨rule, []⟩]

protected def map (f : α → β) : Reading α → Reading β
  | ok a => ok (f a)
  | issues found => issues found
  | abort cause => abort cause

/-- Reads two parts; issues of both are kept. -/
def both (first : Reading α) (second : Reading β) : Reading (α × β) :=
  match first, second with
  | abort cause, _ => abort cause
  | _, abort cause => abort cause
  | issues a, issues b => issues (a ++ b)
  | issues a, ok _ => issues a
  | ok _, issues b => issues b
  | ok a, ok b => ok (a, b)

instance : Functor Reading where
  map := Reading.map

instance : Applicative Reading where
  pure := ok
  seq f x := (f.both (x ())).map fun (f, a) ↦ f a

/-- Goes on with what was read. -/
def andThen (r : Reading α) (f : α → Reading β) : Reading β :=
  match r with
  | ok a => f a
  | issues found => issues found
  | abort cause => abort cause

/-- The reading as seen from one step further out. -/
def behind (step : Step) : Reading α → Reading α
  | issues found => issues (found.map (Issue.behind step))
  | r => r

def «at» (name : String) (r : Reading α) : Reading α := r.behind (.field (lit name))

/-- A rule in words on what was read. -/
def ofExcept (r : Except Text α) : Reading α :=
  match r with
  | .ok a => ok a
  | .error message => issue (.violated message)

/-- The reading of a part that is built on its own before it takes its place.  A message about it
that is not encodable cannot be kept until then, and an issue about that message is. -/
def builtApart (source : Except Text β) (r : Reading α) : Reading α :=
  match source, r with
  | .error message, abort .unencodable => issue (.violated message.utf8Fault)
  | _, r => r

/-- The members of a list, each at its index, counted from `n`. -/
def each (f : Value → Reading α) (n : Nat) : List Value → Reading (List α)
  | [] => ok []
  | v :: vs => (((f v).behind (.index n)).both (each f (n + 1) vs)).map fun (a, as) ↦ a :: as

/-- The end of a reading: the value, or the failure. -/
def run : Reading α → Except Failure α
  | ok a => .ok a
  | issues found => .error (.foreign (.invalid found))
  | abort cause => .error (.foreign cause)

end Reading

end GrapheneSigner
