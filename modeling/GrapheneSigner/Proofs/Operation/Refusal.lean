import GrapheneSigner.Operation.Entry
import GrapheneSigner.Proofs.Wire.Refusal

/-!
# Refusals of operations

Whatever is in the fields of an operation of the catalogue, what it writes fails only as calls do.
Operations of other kinds may bring failures of their own.
-/

namespace GrapheneSigner

open Writing

theorem Value.isRefusal_unsupported (typeId : Except Foreign Text) (field : Option Text) :
    (unsupported typeId field).IsRefusal := Failure.isRefusal_showing fun _ ↦ rfl

theorem Value.onlyRefuses_writing (v : Value) (field : Option Text) :
    OnlyRefuses (v.writing field) := by
  unfold writing
  split
  · exact onlyRefuses_nil.call _
  · exact ((onlyRefuses_nil.call _).call _).call _
  · exact onlyRefuses_nil.call _
  · split
    · exact onlyRefuses_nil.call _
    · exact onlyRefuses_error (isRefusal_unsupported ..)
  · exact onlyRefuses_error trivial

theorem AccountSet.onlyRefuses_writing (v : Value) (field : Text) :
    OnlyRefuses (writing v field) := by
  unfold writing
  split
  · intro failure hmem
    obtain ⟨call, _, hcall⟩ := List.mem_map.mp hmem
    cases hcall
  · exact onlyRefuses_error trivial

namespace Draft

theorem foreign_of_present {field : Option Value} {failure : Failure}
    (h : present field = .error failure) : ∃ cause, failure = .foreign cause := by
  cases field with
  | some v => cases h
  | none =>
    cases h
    exact ⟨_, rfl⟩

theorem onlyRefuses_calls (field : Option Value) {write : Value → Writing}
    (h : ∀ v, OnlyRefuses (write v)) : OnlyRefuses (calls field write) := by
  cases field with
  | some v => exact h v
  | none => exact onlyRefuses_error trivial

theorem onlyRefuses_body (d : Draft) : OnlyRefuses d.body := by
  have htyped : ∀ field name, OnlyRefuses (calls field (·.writing (some (lit name)))) :=
    fun field name ↦ onlyRefuses_calls field fun v ↦ v.onlyRefuses_writing _
  have hcall : ∀ field (call : Value → Call), OnlyRefuses (calls field fun v ↦ [.ok (call v)]) :=
    fun field call ↦ onlyRefuses_calls field fun v ↦ onlyRefuses_nil.call _
  have hset : ∀ field name, OnlyRefuses (calls field (AccountSet.writing · (lit name))) :=
    fun field name ↦ onlyRefuses_calls field fun v ↦ AccountSet.onlyRefuses_writing v _
  cases d with
  | vote voter author permlink weight =>
    exact (((htyped _ _).append (htyped _ _)).append (hcall _ _)).append (hcall _ _)
  | transfer sender receiver amount memo =>
    exact (((htyped _ _).append (htyped _ _)).append (htyped _ _)).append (hcall _ _)
  | witnessVote account witness approve =>
    exact ((htyped _ _).append (htyped _ _)).append (hcall _ _)
  | customJson auths postingAuths id json =>
    exact (((hset _ _).append (hset _ _)).append (hcall _ _)).append (hcall _ _)

end Draft

theorem OperationKind.onlyRefuses_writing (k : OperationKind) (frame : Frame) {body : Writing}
    (h : OnlyRefuses body) : OnlyRefuses (k.writing frame body) := by
  unfold writing
  split
  · exact onlyRefuses_error trivial
  split
  · exact onlyRefuses_error trivial
  split
  · have hcovered : OnlyRefuses [.error (.foreign (.wrongKind []))] := onlyRefuses_error trivial
    exact hcovered.call _
  · exact h.call _

namespace RecordKind

theorem onlyRefuses_writingOfType (typeId : Value) : OnlyRefuses (writingOfType typeId) := by
  unfold writingOfType
  split
  · exact onlyRefuses_nil.call _
  · exact onlyRefuses_error (Value.isRefusal_unsupported ..)

theorem onlyRefuses_writing (k : RecordKind) (fields : List (Text × Value)) (frame : Frame) :
    OnlyRefuses (k.writing fields frame) := by
  have hcall : ∀ field (call : Value → Call),
      OnlyRefuses (Draft.calls field fun v ↦ [.ok (call v)]) :=
    fun field call ↦ Draft.onlyRefuses_calls field fun v ↦ onlyRefuses_nil.call _
  unfold writing
  dsimp only
  split
  · exact onlyRefuses_error trivial
  cases k with
  | account => exact hcall _ _
  | asset => exact (hcall _ _).append (onlyRefuses_error trivial)
  | time => exact hcall _ _
  | extension => exact Draft.onlyRefuses_calls _ onlyRefuses_writingOfType

end RecordKind

namespace Entry

/-- Only operations outside of the catalogue bring failures of their own. -/
theorem onlyRefuses_writing (e : Entry) (h : ∀ o frame, e ≠ .described o frame) :
    OnlyRefuses e.writing := by
  cases e with
  | catalogue d frame => exact d.kind.onlyRefuses_writing frame d.onlyRefuses_body
  | described o frame => exact absurd rfl (h o frame)
  | bare v frame => exact v.onlyRefuses_writing none
  | record k fields frame => exact k.onlyRefuses_writing fields frame

/-- An entry without title fails with a foreign failure. -/
theorem foreign_of_title {e : Entry} {failure : Failure} (h : e.title = .error failure) :
    ∃ cause, failure = .foreign cause := by
  unfold title at h
  rcases of_bind_eq_error h with hname | ⟨v, _, hplain⟩
  · unfold name at hname
    split at hname
    · cases hname
    · cases hname
    · cases hname
    · cases hname
      exact ⟨_, rfl⟩
    · exact Draft.foreign_of_present hname
  · cases hv : v.plain with
    | ok text =>
      rw [hv] at hplain
      cases hplain
    | error fault =>
      rw [hv] at hplain
      cases hplain
      exact ⟨_, rfl⟩

end Entry

end GrapheneSigner
