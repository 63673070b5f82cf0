import GrapheneSigner.Proofs.Wire.Refusal

/-!
# Plain writings

Calls that take integers, texts and byte strings are plain: they ask nothing of the members of a
value, so that they never spoil what they are part of.  A writing that is made of plain calls has
its bytes by itself whenever it succeeds as a part.
-/

namespace GrapheneSigner

namespace Call

/-- The call asks nothing of the members of a value. -/
def IsPlain : Call → Prop
  | raw (.bytes _) => True
  | raw _ => False
  | counted .. => False
  | _ => True

theorem spoilt?_of_isPlain {call : Call} (hplain : call.IsPlain) : call.spoilt? = none := by
  cases call with
  | raw value =>
    cases value with
    | bytes b => rfl
    | _ => cases hplain
  | counted value field => cases hplain
  | _ => rfl

end Call

namespace Writing

/-- The writing is made of plain calls. -/
def IsPlain (x : Writing) : Prop := ∀ call, .ok call ∈ x → call.IsPlain

theorem isPlain_nil : IsPlain [] := by
  intro call h
  cases h

theorem IsPlain.call {x : Writing} (h : x.IsPlain) {call : Call} (hcall : call.IsPlain) :
    IsPlain (.ok call :: x) := by
  intro call' hmem
  rcases List.mem_cons.mp hmem with heq | hrest
  · cases heq
    exact hcall
  · exact h call' hrest

theorem isPlain_call {call : Call} (hcall : call.IsPlain) : IsPlain [.ok call] :=
  isPlain_nil.call hcall

theorem isPlain_fixed (w : WireInt) (v : Value) (field : Option Text) :
    IsPlain [.ok (.fixed w v field)] :=
  isPlain_call trivial

theorem isPlain_chars (v : Value) (field : Option Text) : IsPlain [.ok (.chars v field)] :=
  isPlain_call trivial

theorem IsPlain.append {x y : Writing} (hx : x.IsPlain) (hy : y.IsPlain) : (x ++ y).IsPlain := by
  intro call hmem
  exact (List.mem_append.mp hmem).elim (hx call) (hy call)

theorem isPlain_flatMap {α : Type} {as : List α} {write : α → Writing}
    (h : ∀ a ∈ as, (write a).IsPlain) : IsPlain (as.flatMap write) := by
  intro call hmem
  obtain ⟨a, ha, hcall⟩ := List.mem_flatMap.mp hmem
  exact h a ha call hcall

/-- A plain writing spoils nothing. -/
theorem IsPlain.spoilt?_eq_none {x : Writing} (hplain : x.IsPlain) : x.spoilt? = none := by
  unfold spoilt?
  rw [List.findSome?_eq_none_iff]
  intro step hmem
  cases step with
  | error failure => rfl
  | ok call => exact Call.spoilt?_of_isPlain (hplain call hmem)

end Writing

end GrapheneSigner
