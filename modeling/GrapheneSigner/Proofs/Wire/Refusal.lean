import GrapheneSigner.Wire.Writing

/-!
# Refusals of writings

A call is refused with an encoding fault or with a foreign failure, and a writing fails as one of
its calls does, unless a step of it brings a failure of its own.
-/

namespace GrapheneSigner

section Except

variable {ε α β : Type} {x : Except ε α} {f : α → Except ε β}

theorem exists_of_bind_eq_ok {b : β} (h : x >>= f = .ok b) : ∃ a, x = .ok a ∧ f a = .ok b := by
  cases x with
  | error e => cases h
  | ok a => exact ⟨a, rfl, h⟩

theorem of_bind_eq_error {e : ε} (h : x >>= f = .error e) :
    x = .error e ∨ ∃ a, x = .ok a ∧ f a = .error e := by
  cases x with
  | error e' =>
    cases h
    exact .inl rfl
  | ok a => exact .inr ⟨a, rfl, h⟩

theorem eq_ok_of_toOption {a : α} (h : x.toOption = some a) : x = .ok a := by
  cases x with
  | error e => cases h
  | ok a' =>
    cases h
    rfl

theorem exists_error_of_toOption (h : x.toOption = none) : ∃ e, x = .error e := by
  cases x with
  | error e => exact ⟨e, rfl⟩
  | ok a => cases h

end Except

namespace Failure

/-- A failure of the wire form: an encoding fault or a foreign failure. -/
def IsRefusal : Failure → Prop
  | own fault => fault.report.kind = .encoding
  | foreign _ => True

theorem isRefusal_showing {shown : Except Foreign Text} {failure : Text → Failure}
    (h : ∀ text, (failure text).IsRefusal) : (showing shown failure).IsRefusal := by
  cases shown with
  | ok text => exact h text
  | error cause => trivial

end Failure

namespace Call

theorem isRefusal_misfit (type : WireInt) (value : Value) (field : Option Text) (cause : Foreign) :
    (misfit type value field cause).IsRefusal := Failure.isRefusal_showing fun _ ↦ rfl

theorem isRefusal_noVarint (value : Value) (field : Option Text) :
    (noVarint value field).IsRefusal := Failure.isRefusal_showing fun _ ↦ rfl

theorem isRefusal_of_bytes {v : Value} {failure : Failure} (h : bytes v = .error failure) :
    failure.IsRefusal := by
  unfold bytes at h
  split at h
  · cases h
  · split at h
    · cases h
    · cases h
      trivial

theorem isRefusal_of_size {v : Value} {failure : Failure} (h : size v = .error failure) :
    failure.IsRefusal := by
  unfold size at h
  split at h
  · cases h
  · split at h
    · cases h
    · cases h
      trivial

theorem isRefusal_of_encode {call : Call} {failure : Failure} (h : call.encode = .error failure) :
    failure.IsRefusal := by
  cases call with
  | fixed type value field =>
    unfold encode at h
    dsimp only at h
    split at h
    · cases h
    · cases h
      exact isRefusal_misfit ..
  | offered type o offer field =>
    unfold encode at h
    dsimp only at h
    split at h
    · split at h
      · cases h
      · cases h
        exact isRefusal_misfit ..
    · cases h
      split
      · exact isRefusal_misfit ..
      · trivial
  | varint value field =>
    unfold encode at h
    dsimp only at h
    split at h
    · split at h
      · cases h
      · cases h
        exact isRefusal_noVarint ..
    · cases h
      exact isRefusal_noVarint ..
  | chars value field =>
    unfold encode at h
    dsimp only at h
    split at h
    · split at h
      · cases h
      · cases h
        rfl
    · cases h
      rfl
  | raw value => exact isRefusal_of_bytes h
  | counted value field =>
    unfold encode at h
    dsimp only at h
    cases hsize : size value with
    | error failure' =>
      rw [hsize] at h
      cases h
      exact isRefusal_of_size hsize
    | ok n =>
      cases hbytes : bytes value with
      | error failure' =>
        rw [hsize, hbytes] at h
        cases h
        exact isRefusal_of_bytes hbytes
      | ok b =>
        rw [hsize, hbytes] at h
        cases h

theorem isRefusal_of_byteFault? {v : Value} {failure : Failure}
    (h : byteFault? v = some failure) : failure.IsRefusal := by
  unfold byteFault? at h
  split at h
  · split at h
    · cases h
    · cases h
      trivial
  · cases h
    trivial

theorem isRefusal_of_members {c : Option (Holder × List Value)} {failure : Failure}
    (h : c.bind (fun c ↦ c.2.findSome? byteFault?) = some failure) : failure.IsRefusal := by
  obtain ⟨c, _, hmembers⟩ := Option.bind_eq_some_iff.mp h
  obtain ⟨v, _, hv⟩ := List.exists_of_findSome?_eq_some hmembers
  exact isRefusal_of_byteFault? hv

theorem isRefusal_of_spoilt? {call : Call} {failure : Failure}
    (h : call.spoilt? = some failure) : failure.IsRefusal := by
  unfold spoilt? at h
  split at h
  · cases h
  · exact isRefusal_of_members h
  · cases h
  · exact isRefusal_of_members h
  · cases h

end Call

namespace Writing

/-- The steps that fail by themselves fail as calls do. -/
def OnlyRefuses (x : Writing) : Prop := ∀ failure, .error failure ∈ x → failure.IsRefusal

theorem onlyRefuses_nil : OnlyRefuses [] := by
  intro failure h
  cases h

theorem OnlyRefuses.call {x : Writing} (h : OnlyRefuses x) (call : Call) :
    OnlyRefuses (.ok call :: x) := by
  intro failure hmem
  rcases List.mem_cons.mp hmem with heq | hrest
  · cases heq
  · exact h failure hrest

theorem OnlyRefuses.append {x y : Writing} (hx : OnlyRefuses x) (hy : OnlyRefuses y) :
    OnlyRefuses (x ++ y) := by
  intro failure hmem
  rcases List.mem_append.mp hmem with h | h
  · exact hx failure h
  · exact hy failure h

theorem onlyRefuses_error {failure : Failure} (h : failure.IsRefusal) :
    OnlyRefuses [.error failure] := by
  intro failure' hmem
  cases List.mem_singleton.mp hmem
  exact h

/-- A writing fails with a failure of its own or as one of its calls does. -/
theorem mem_or_exists_call_of_encode {x : Writing} {failure : Failure}
    (h : x.encode = .error failure) :
    .error failure ∈ x ∨ ∃ call, .ok call ∈ x ∧ call.encode = .error failure := by
  induction x with
  | nil => cases h
  | cons step rest ih =>
    cases step with
    | error failure' =>
      cases h
      exact .inl List.mem_cons_self
    | ok call =>
      unfold encode at h
      cases hcall : call.encode with
      | error failure' =>
        simp only [hcall, Except.error.injEq] at h
        subst h
        exact .inr ⟨call, List.mem_cons_self, hcall⟩
      | ok bytes =>
        cases hrest : encode rest with
        | ok more => simp [hcall, hrest] at h
        | error failure' =>
          simp only [hcall, hrest, Except.error.injEq] at h
          subst h
          rcases ih hrest with hown | ⟨later, hmem, hlater⟩
          · exact .inl (List.mem_cons_of_mem _ hown)
          · exact .inr ⟨later, List.mem_cons_of_mem _ hmem, hlater⟩

/-- A writing fails with a failure of its own or as one of its calls is refused. -/
theorem mem_or_isRefusal_of_encode {x : Writing} {failure : Failure}
    (h : x.encode = .error failure) : .error failure ∈ x ∨ failure.IsRefusal := by
  rcases mem_or_exists_call_of_encode h with hown | ⟨call, _, hcall⟩
  · exact .inl hown
  · exact .inr (Call.isRefusal_of_encode hcall)

/-- If two writings succeed one after the other, then each does. -/
theorem exists_of_encode_append {x y : Writing} {b : Bytes} (h : encode (x ++ y) = .ok b) :
    ∃ before behind, encode x = .ok before ∧ encode y = .ok behind ∧ b = before ++ behind := by
  rw [encode_append] at h
  obtain ⟨before, hbefore, h⟩ := exists_of_bind_eq_ok h
  cases hbehind : encode y with
  | error failure =>
    rw [hbehind] at h
    cases h
  | ok behind =>
    rw [hbehind] at h
    cases h
    exact ⟨before, behind, hbefore, rfl, rfl⟩

/-- No step of a writing that succeeds fails by itself. -/
theorem not_mem_of_encode {x : Writing} {b : Bytes} {failure : Failure}
    (h : x.encode = .ok b) : .error failure ∉ x := by
  intro hmem
  obtain ⟨before, behind, rfl⟩ := List.append_of_mem hmem
  obtain ⟨_, _, _, hfailure, _⟩ := exists_of_encode_append h
  cases hfailure

/-- No call of a writing that succeeds is refused. -/
theorem exists_encode_of_mem_call {x : Writing} {call : Call} {b : Bytes} (h : x.encode = .ok b)
    (hmem : .ok call ∈ x) : ∃ own, call.encode = .ok own := by
  obtain ⟨before, behind, rfl⟩ := List.append_of_mem hmem
  obtain ⟨_, _, _, hcall, _⟩ := exists_of_encode_append h
  unfold encode at hcall
  cases hown : call.encode with
  | ok own => exact ⟨own, rfl⟩
  | error failure =>
    rw [hown] at hcall
    cases hcall

/-- The bytes of a writing around one of its calls. -/
theorem encode_append_cons (x : Writing) (call : Call) (y : Writing) :
    encode (x ++ .ok call :: y) =
      (encode x).bind fun before ↦ call.encode.bind fun own ↦
        (encode y).map fun behind ↦ before ++ (own ++ behind) := by
  rw [encode_append, encode]
  cases encode x with
  | error failure => rfl
  | ok before =>
    cases call.encode with
    | error failure => rfl
    | ok own => cases encode y <;> rfl

theorem isRefusal_of_spoilt? {x : Writing} {failure : Failure}
    (h : x.spoilt? = some failure) : failure.IsRefusal := by
  obtain ⟨step, _, hstep⟩ := List.exists_of_findSome?_eq_some h
  cases step with
  | error failure' => cases hstep
  | ok call => exact Call.isRefusal_of_spoilt? hstep

end Writing

end GrapheneSigner
