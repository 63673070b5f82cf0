import Mathlib.Algebra.Group.Nat.Defs
import GrapheneSigner.Proofs.Wire.Refusal

/-!
# Who is to blame

A wire form that is put together from fields is refused for one of them, and it is the first one
that is not in order.  What is reported is an encoding fault that names the field, unless the fault
would show an integer that has no numeral; then it is the failure of showing it.  An outcome blames
a list of fields if it is a success where the list is empty and what the first of them reports
otherwise.  What is done in steps blames the fields of the first step, then those of the second one,
so that the fields to blame of a whole wire form are found by going through its layout.
-/

namespace GrapheneSigner

/-- A field that is not in order, and the integer that its fault shows, if it shows one. -/
structure Blame where
  field : Text
  shown : Option Int := none
  deriving DecidableEq

namespace Blame

/-- The integer to be shown has no numeral. -/
def isMute (b : Blame) : Bool := b.shown.any fun i ↦ !Numeral.isWritable i

/-- What is reported of a field: an encoding fault that names it, unless the integer to be shown has
no numeral. -/
def Reports (b : Blame) (failure : Failure) : Prop :=
  if b.isMute then failure = .foreign .overlong
  else ∃ fault, failure = .own fault ∧ fault.report.kind = .encoding ∧
    fault.report.field = some b.field

variable {b : Blame} {failure : Failure}

theorem reports_own {fault : Fault} (hshown : b.isMute = false)
    (hkind : fault.report.kind = .encoding) (hfield : fault.report.field = some b.field) :
    b.Reports (.own fault) := by
  rw [Reports, hshown, if_neg Bool.false_ne_true]
  exact ⟨fault, rfl, hkind, hfield⟩

theorem reports_overlong (hshown : b.isMute = true) : b.Reports (.foreign .overlong) := by
  rw [Reports, if_pos hshown]

theorem Reports.eq_overlong (h : b.Reports failure) (hshown : b.isMute = true) :
    failure = .foreign .overlong := by
  rwa [Reports, if_pos hshown] at h

theorem Reports.exists_fault (h : b.Reports failure) (hshown : b.isMute = false) :
    ∃ fault, failure = .own fault ∧ fault.report.kind = .encoding ∧
      fault.report.field = some b.field := by
  rwa [Reports, hshown, if_neg Bool.false_ne_true] at h

/-- A fault that shows an integer is made only if the integer has a numeral. -/
theorem reports_showing {i : Int} {failure : Text → Failure} {fault : Text → Fault}
    (hfailure : ∀ text, failure text = .own (fault text))
    (hkind : ∀ text, (fault text).report.kind = .encoding)
    {field : Text} (hfield : ∀ text, (fault text).report.field = some field) :
    Reports ⟨field, some i⟩ (.showing (Numeral.shown i) failure) := by
  have hmute : isMute ⟨field, some i⟩ = !Numeral.isWritable i := rfl
  rw [Numeral.shown_eq]
  cases h : Numeral.isWritable i with
  | true =>
    rw [if_pos rfl, Failure.showing, hfailure]
    exact reports_own (by rw [hmute, h]; rfl) (hkind _) (hfield _)
  | false =>
    rw [if_neg Bool.false_ne_true, Failure.showing]
    exact reports_overlong (by rw [hmute, h]; rfl)

/-- The same about a field that is named by a longer path. -/
def under (path : Text → Text) (b : Blame) : Blame := { b with field := path b.field }

end Blame

/-- The fields to blame where one field has to be in order. -/
def blameUnless (inOrder : Prop) [Decidable inOrder] (b : Blame) : List Blame :=
  if inOrder then [] else [b]

@[simp]
theorem blameUnless_eq_nil_iff {inOrder : Prop} [Decidable inOrder] {b : Blame} :
    blameUnless inOrder b = [] ↔ inOrder := by
  unfold blameUnless
  by_cases h : inOrder <;> simp [h]

theorem eq_of_mem_blameUnless {inOrder : Prop} [Decidable inOrder] {b b' : Blame}
    (h : b' ∈ blameUnless inOrder b) : b' = b := by
  unfold blameUnless at h
  split at h
  · cases h
  · exact List.mem_singleton.mp h

/-- The outcome is a success if no field is to blame, and otherwise what is reported of the first
field that is. -/
inductive Blames {α : Type} : Except Failure α → List Blame → Prop
  | nobody (a : α) : Blames (.ok a) []
  | first {failure : Failure} {b : Blame} {rest : List Blame} (reported : b.Reports failure) :
      Blames (.error failure) (b :: rest)

namespace Blames

variable {α β : Type} {x : Except Failure α} {fields more : List Blame}

theorem bind {f : α → Except Failure β} (h : Blames x fields)
    (h' : ∀ a, x = .ok a → Blames (f a) more) : Blames (x >>= f) (fields ++ more) := by
  cases h with
  | nobody a => exact h' a rfl
  | first reported => exact first reported

theorem map (f : α → β) (h : Blames x fields) : Blames (x.map f) fields := by
  cases h with
  | nobody a => exact nobody (f a)
  | first reported => exact first reported

/-- A fault that is passed on may name its field by a longer path. -/
theorem mapError {f : Failure → Failure} {path : Text → Text} (h : Blames x fields)
    (hf : ∀ b failure, b ∈ fields → b.Reports failure → (b.under path).Reports (f failure)) :
    Blames (x.mapError f) (fields.map (Blame.under path)) := by
  cases h with
  | nobody a => exact nobody a
  | first reported => exact first (hf _ _ List.mem_cons_self reported)

/-- There is an outcome exactly if no field is to blame. -/
theorem exists_error_iff (h : Blames x fields) :
    (∃ failure, x = .error failure) ↔ fields ≠ [] := by
  cases h with
  | nobody a => simp
  | first reported => simp

/-- A failure is what is reported of the first field to blame. -/
theorem exists_of_error (h : Blames x fields) {failure : Failure} (herror : x = .error failure) :
    ∃ b, fields.head? = some b ∧ b.Reports failure := by
  cases h with
  | nobody a => cases herror
  | first reported =>
    cases herror
    exact ⟨_, rfl, reported⟩

end Blames

/-- A step that has no fault blames nobody. -/
theorem blames_of_exists_ok {α : Type} {x : Except Failure α} (h : ∃ a, x = .ok a) :
    Blames x [] := by
  obtain ⟨a, rfl⟩ := h
  exact .nobody a

namespace Call

theorem blames_fixed (w : WireInt) (i : Int) (field : Text) :
    Blames (fixed w (.int i) (some field)).encode
      (blameUnless (w.least ≤ i ∧ i ≤ w.greatest) ⟨field, some i⟩) := by
  unfold encode blameUnless
  dsimp only [Value.integer?, Option.bind_some]
  unfold WireInt.encode?
  by_cases h : w.least ≤ i ∧ i ≤ w.greatest
  · rw [if_pos h, if_pos h]
    exact .nobody _
  · rw [if_neg h, if_neg h]
    dsimp only
    rw [misfit, Value.shown_int]
    exact .first (Blame.reports_showing (fun _ ↦ rfl) (fun _ ↦ rfl) fun _ ↦ rfl)

theorem blames_varint (n : Nat) (field : Text) :
    Blames (varint (.int n) (some field)).encode (blameUnless (n < 2 ^ 64) ⟨field, some n⟩) := by
  have hbound : (0 ≤ (n : Int) ∧ (n : Int) < varintBound) ↔ n < 2 ^ 64 := by
    rw [show varintBound = 2 ^ 64 from rfl]
    omega
  unfold encode blameUnless
  dsimp only [Value.integer?]
  by_cases h : n < 2 ^ 64
  · rw [if_pos (hbound.mpr h), if_pos h]
    exact .nobody _
  · rw [if_neg (mt hbound.mp h), if_neg h, noVarint, Value.shown_int]
    exact .first (Blame.reports_showing (fun _ ↦ rfl) (fun _ ↦ rfl) fun _ ↦ rfl)

theorem blames_chars (t : Text) (field : Text) :
    Blames (chars (.chars t) (some field)).encode
      (blameUnless (t.isEncodable = true) { field }) := by
  unfold encode blameUnless Text.utf8?
  dsimp only
  by_cases h : t.isEncodable = true
  · rw [if_pos h, if_pos h]
    exact .nobody _
  · rw [if_neg h, if_neg h]
    exact .first (Blame.reports_own rfl rfl rfl)

end Call

namespace Writing

/-- A writing of one call blames what the call blames. -/
theorem blames_call {call : Call} {fields : List Blame} (h : Blames call.encode fields) :
    Blames (encode [.ok call]) fields := by
  unfold encode
  cases hcall : call.encode with
  | ok b =>
    rw [hcall] at h
    cases h
    exact .nobody _
  | error failure =>
    rw [hcall] at h
    cases h with
    | first reported => exact .first reported

theorem blames_append {x y : Writing} {fields more : List Blame} (hx : Blames x.encode fields)
    (hy : Blames y.encode more) : Blames (encode (x ++ y)) (fields ++ more) := by
  rw [encode_append]
  exact hx.bind fun bytes _ ↦ hy.map (bytes ++ ·)

theorem blames_flatMap {α : Type} {as : List α} {write : α → Writing} {fields : α → List Blame}
    (h : ∀ a ∈ as, Blames (write a).encode (fields a)) :
    Blames (encode (as.flatMap write)) (as.flatMap fields) := by
  induction as with
  | nil => exact .nobody []
  | cons a rest ih =>
    rw [List.flatMap_cons, List.flatMap_cons]
    exact blames_append (h a List.mem_cons_self) (ih fun a' h' ↦ h a' (List.mem_cons_of_mem _ h'))

end Writing

end GrapheneSigner
