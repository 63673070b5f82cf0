import GrapheneSigner.Wire.Writer

/-!
# Writings

A writing is what a compound value writes: the calls of its parts in order, where a part that has
no call to make leaves a failure in its place.  `Writing.encode` gives the bytes of a writing that
succeeds as a whole.  `Writer.write` appends call by call up to the first failure, and on a writing
that succeeds it appends exactly those bytes.
-/

namespace GrapheneSigner

/-- Calls to be made in order; a step that fails before its call is a failure in its place. -/
abbrev Writing := List (Except Failure Call)

namespace Writing

/-- The bytes of a writing, up to its first failure. -/
def encode : Writing → Except Failure Bytes
  | [] => .ok []
  | .error failure :: _ => .error failure
  | .ok call :: rest =>
    match call.encode with
    | .ok bytes =>
      match encode rest with
      | .ok more => .ok (bytes ++ more)
      | .error failure => .error failure
    | .error failure => .error failure

@[simp]
theorem encode_nil : encode [] = .ok [] := rfl

/-- What spoils a writing that succeeds: an appended member that is no byte. -/
def spoilt? (x : Writing) : Option Failure :=
  x.findSome? fun
    | .ok call => call.spoilt?
    | .error _ => none

/-- The bytes of a writing by itself, which must not be spoilt. -/
def toBytes (x : Writing) : Except Failure Bytes :=
  match x.encode, x.spoilt? with
  | .ok bytes, none => .ok bytes
  | .ok _, some failure => .error failure
  | .error failure, _ => .error failure

/-- The bytes of two writings one after the other; the failure of the first one wins. -/
theorem encode_append (x y : Writing) :
    encode (x ++ y) = (encode x).bind fun bytes ↦ (encode y).map (bytes ++ ·) := by
  induction x with
  | nil => cases h : encode y <;> simp [encode, h, Except.bind, Except.map]
  | cons step rest ih =>
    cases step with
    | error failure => rfl
    | ok call =>
      simp only [List.cons_append, encode, ih]
      cases call.encode with
      | error failure => rfl
      | ok bytes =>
        cases encode rest with
        | error failure => rfl
        | ok more => cases encode y <;> simp [Except.bind, Except.map]

end Writing

namespace Writer

/-- Appends a writing up to its first failure. -/
def write (w : Writer) : Writing → Writer × Except Failure Unit
  | [] => (w, .ok ())
  | .error failure :: _ => (w, .error failure)
  | .ok call :: rest =>
    match call.encode with
    | .ok bytes => write ⟨w.bytes ++ bytes⟩ rest
    | .error failure => (w, .error failure)

/-- A writing that succeeds appends its bytes, whatever the writer holds. -/
theorem write_of_encode {x : Writing} {b : Bytes} (h : x.encode = .ok b) (w : Writer) :
    w.write x = (⟨w.bytes ++ b⟩, .ok ()) := by
  induction x generalizing w b with
  | nil => cases h; simp [write]
  | cons step rest ih =>
    cases step with
    | error failure => cases h
    | ok call =>
      simp only [Writing.encode] at h
      cases hc : call.encode with
      | error failure => simp [hc] at h
      | ok bytes =>
        cases hr : Writing.encode rest with
        | error failure => simp [hc, hr] at h
        | ok more =>
          simp only [hc, hr, Except.ok.injEq] at h
          subst h
          simp [write, hc, ih hr]

end Writer

end GrapheneSigner
