import GrapheneSigner.Text.Hex
import GrapheneSigner.Wire.Writer

/-!
# Chain ids

A chain id is given as bytes or as hexadecimal digits.  Absent and empty chain ids stand for the
empty byte string, which is in front of everything and changes nothing.
-/

namespace GrapheneSigner

namespace ChainId

/-- The refusal of a text that is no hexadecimal byte string. -/
def invalid (t : Text) (pos : Nat) : Failure :=
  (Failure.badValue (Hex.faultMessage pos)).causing
    (.encoding (lit "Chain id is not valid hex: " ++ t.quoted) (some (lit "chain_id")) [])

def bytesOf (v : Value) : Except Failure Bytes :=
  if !v.truthy then .ok []
  else
    match v with
    | .bytes b => .ok b
    | .chars t =>
      match Hex.read t with
      | .ok b => .ok b
      | .error pos => .error (invalid t pos)
    | _ => .error (.foreign (.wrongKind []))

@[simp]
theorem bytesOf_null : bytesOf .null = .ok [] := rfl

@[simp]
theorem bytesOf_bytes (b : Bytes) : bytesOf (.bytes b) = .ok b := by
  cases b <;> rfl

end ChainId

end GrapheneSigner
