import GrapheneSigner.Transaction.Intake

/-!
# Changing the expiration alone

The expiration of a transaction is set by a checked assignment.  As long as no members wait beyond
the fields, the assignment changes nothing else that is written, and whether it goes through does
not depend on the new expiration.  Transactions are built without such members.
-/

namespace GrapheneSigner

namespace Frame

/-- No members wait beyond the fields of the record. -/
def NoSurplus (f : Frame) : Prop := f.surplus.getD [] = []

/-- A checked assignment to a name goes through. -/
def admits (f : Frame) (name : Text) : Bool :=
  f.setter && !f.blocked.contains name && f.checker && f.surplus.isSome && f.tally

theorem noSurplus_intact : ({} : Frame).NoSurplus := rfl

theorem moved_of_noSurplus {f : Frame} (h : f.NoSurplus) (name : Text) : f.moved name = [] := by
  unfold moved
  rw [h]
  rfl

theorem noSurplus_drained (f : Frame) : f.drained.NoSurplus := rfl

theorem admits_drained {f : Frame} {name : Text} (h : f.admits name = true) :
    f.drained.admits name = true := by
  simp only [admits, drained, Bool.and_eq_true] at h ⊢
  exact ⟨⟨h.1.1, rfl⟩, h.2⟩

end Frame

namespace Transaction

/-- `u` is `t` up to its expiration and its frame. -/
structure SameBody (t u : Transaction) : Prop where
  refBlockNum : u.refBlockNum = t.refBlockNum
  refBlockPrefix : u.refBlockPrefix = t.refBlockPrefix
  operations : u.operations = t.operations
  extensions : u.extensions = t.extensions
  operationsHolder : u.operationsHolder = t.operationsHolder
  extensionsHolder : u.extensionsHolder = t.extensionsHolder

theorem SameBody.refl (t : Transaction) : SameBody t t := ⟨rfl, rfl, rfl, rfl, rfl, rfl⟩

theorem SameBody.trans {t u v : Transaction} (h : SameBody t u) (h' : SameBody u v) :
    SameBody t v :=
  ⟨h'.refBlockNum.trans h.refBlockNum, h'.refBlockPrefix.trans h.refBlockPrefix,
    h'.operations.trans h.operations, h'.extensions.trans h.extensions,
    h'.operationsHolder.trans h.operationsHolder, h'.extensionsHolder.trans h.extensionsHolder⟩

/-- The wire form depends on the body and the expiration alone. -/
theorem SameBody.encode_expiring {t u : Transaction} (h : SameBody t u) (e : TimePoint)
    (chain : Bytes) : (u.expiring e).encode chain = (t.expiring e).encode chain := by
  obtain ⟨_, _, _, _, _, _, _, _⟩ := t
  obtain ⟨_, _, _, _, _, _, _, _⟩ := u
  obtain ⟨h1, h2, h3, h4, h5, h6⟩ := h
  dsimp only at h1 h2 h3 h4 h5 h6
  subst h1 h2 h3 h4 h5 h6
  rfl

/-- What is signed depends on the body and the expiration alone. -/
theorem SameBody.digest_expiring {t u : Transaction} (h : SameBody t u) (e : TimePoint)
    (chain : Bytes) : (u.expiring e).digest chain = (t.expiring e).digest chain := by
  unfold digest
  rw [h.encode_expiring]

/-- The steps of an assignment to the expiration. -/
theorem expireAt_eq (t : Transaction) (e : TimePoint) :
    t.expireAt e =
      if t.frame.setter = false then .error (.foreign .noMember)
      else if t.frame.blocked.contains (lit "expiration") = true then
        .error (.foreign (.wrongKind []))
      else (t.frame.checking (.ok (t.expiring e))).bind (settled (lit "expiration")) := by
  have hname : ¬ lit "expiration" = lit "id" := by decide
  unfold expireAt assigned
  cases t.frame.setter with
  | false => rfl
  | true =>
    by_cases hblocked : t.frame.blocked.contains (lit "expiration") = true
    · have hblocking : t.frame.blocking? (.field (lit "expiration") (.time e))
          = some (.foreign (.wrongKind [])) := if_pos hblocked
      simp only [hblocking, hblocked, Bool.not_true, Bool.false_eq_true, if_false, if_true,
        Bool.true_eq_false]
    · have hblocking : t.frame.blocking? (.field (lit "expiration") (.time e)) = none :=
        if_neg hblocked
      simp only [hblocking, hblocked, hname, Frame.assign?, Bool.not_true, Bool.false_eq_true,
        if_false, Bool.true_eq_false]

/-- A checked assignment to the expiration goes through exactly if the frame admits it, and then it
changes the expiration only; all other assignments fail with a foreign failure. -/
theorem expireAt_cases {t : Transaction} (h : t.frame.NoSurplus) (e : TimePoint) :
    (t.frame.admits (lit "expiration") = true ∧
      t.expireAt e = .ok { t.expiring e with frame := t.frame.drained }) ∨
    (t.frame.admits (lit "expiration") = false ∧
      ∃ cause, t.expireAt e = .error (.foreign cause)) := by
  have hsettled : settled (lit "expiration") (t.expiring e)
      = .ok { t.expiring e with frame := t.frame.drained } := by
    unfold settled
    rw [show (t.expiring e).frame = t.frame from rfl, Frame.moved_of_noSurplus h]
    rfl
  rw [expireAt_eq]
  unfold Frame.checking Frame.admits
  cases t.frame.setter <;> cases t.frame.blocked.contains (lit "expiration") <;>
    cases t.frame.checker <;> cases t.frame.surplus <;> cases t.frame.tally <;>
    simp [Reading.run, Except.bind, hsettled]

/-- `u` is `t` with the expiration `e`, to which another one can be assigned again. -/
structure ExpiresAt (t u : Transaction) (e : TimePoint) : Prop where
  body : SameBody t u
  expiration : u.expiration = e
  noSurplus : u.frame.NoSurplus
  admitted : t.frame.admits (lit "expiration") = true
  admits : u.frame.admits (lit "expiration") = true

/-- What an assignment to the expiration leaves, if it goes through. -/
theorem expiresAt_of_expireAt {t u : Transaction} (h : t.frame.NoSurplus) {e : TimePoint}
    (hu : t.expireAt e = .ok u) : ExpiresAt t u e := by
  rcases expireAt_cases h e with ⟨hadmits, hok⟩ | ⟨_, cause, herror⟩
  · rw [hok] at hu
    cases hu
    exact ⟨⟨rfl, rfl, rfl, rfl, rfl, rfl⟩, rfl, Frame.noSurplus_drained _, hadmits,
      Frame.admits_drained hadmits⟩
  · rw [herror] at hu
    cases hu

/-- Why an assignment to the expiration fails. -/
theorem foreign_of_expireAt {t : Transaction} (h : t.frame.NoSurplus) {e : TimePoint}
    {failure : Failure} (herror : t.expireAt e = .error failure) :
    t.frame.admits (lit "expiration") = false ∧ ∃ cause, failure = .foreign cause := by
  rcases expireAt_cases h e with ⟨_, hok⟩ | ⟨hadmits, cause, hcause⟩
  · rw [hok] at herror
    cases herror
  · rw [hcause] at herror
    cases herror
    exact ⟨hadmits, cause, rfl⟩

end Transaction

end GrapheneSigner
