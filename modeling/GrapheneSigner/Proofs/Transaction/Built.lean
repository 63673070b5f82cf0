import GrapheneSigner.Proofs.Transaction.Expiration
import GrapheneSigner.Proofs.Wire.Refusal

/-!
# Transactions as they are built

A transaction that is built from arguments and checked operations has checked contents, and no
members beyond its fields.  Such members appear in no other way than by an assignment to the part
that holds them.
-/

namespace GrapheneSigner

namespace Reading

variable {α β : Type}

theorem of_map_eq_ok {f : α → β} {r : Reading α} {b : β} (h : f <$> r = .ok b) :
    ∃ a, r = .ok a ∧ f a = b := by
  cases r with
  | ok a =>
    cases h
    exact ⟨a, rfl, rfl⟩
  | issues found => cases h
  | abort cause => cases h

theorem of_seq_eq_ok {f : Reading (α → β)} {r : Reading α} {b : β} (h : f <*> r = .ok b) :
    ∃ g a, f = .ok g ∧ r = .ok a ∧ g a = b := by
  cases f with
  | ok g =>
    cases r with
    | ok a =>
      cases h
      exact ⟨g, a, rfl, rfl, rfl⟩
    | issues found => cases h
    | abort cause => cases h
  | issues found => cases r <;> cases h
  | abort cause => cases r <;> cases h

theorem of_behind_eq_ok {step : Step} {r : Reading α} {a : α} (h : r.behind step = .ok a) :
    r = .ok a := by
  cases r with
  | ok a' => exact h
  | issues found => cases h
  | abort cause => cases h

theorem of_both_eq_ok {r : Reading α} {r' : Reading β} {p : α × β} (h : r.both r' = .ok p) :
    r = .ok p.1 ∧ r' = .ok p.2 := by
  cases r with
  | ok a =>
    cases r' with
    | ok b =>
      cases h
      exact ⟨rfl, rfl⟩
    | issues found => cases h
    | abort cause => cases h
  | issues found => cases r' <;> cases h
  | abort cause => cases r' <;> cases h

/-- A reading that ends without a value fails with a foreign failure. -/
theorem foreign_of_run {r : Reading α} {failure : Failure} (h : r.run = .error failure) :
    ∃ cause, failure = .foreign cause := by
  cases r with
  | ok a => cases h
  | issues found =>
    cases h
    exact ⟨_, rfl⟩
  | abort cause =>
    cases h
    exact ⟨_, rfl⟩

end Reading

namespace Frame

theorem noSurplus_put {f : Frame} (h : f.NoSurplus) (p : Part) (v : Value) :
    (f.put p v).NoSurplus := by
  cases p with
  | setter => cases v <;> exact h
  | checker => exact h
  | printer => exact h
  | tally => exact h
  | surplus => exact h

theorem noSurplus_replace {f : Frame} (h : f.NoSurplus) {p : Part} (hp : p ≠ .surplus)
    (v : Value) : (f.replace p v).NoSurplus := by
  cases p with
  | setter => cases v <;> exact h
  | checker => exact h
  | printer => exact h
  | tally => exact h
  | surplus => exact absurd rfl hp

theorem noSurplus_refilled {f : Frame} (h : f.NoSurplus) (m : Refill) :
    (f.refilled m).NoSurplus := by
  unfold refilled
  refine List.foldlRecOn (motive := NoSurplus) m.parts _ ?_ ?_
  · exact h
  · intro f hf p _
    exact noSurplus_put hf p.1 p.2

end Frame

namespace Transaction

theorem int_of_natural {v : Value} {u : Value} (h : natural v = .ok u) : ∃ n : Nat, u = .int n := by
  obtain ⟨n, _, rfl⟩ := Reading.of_map_eq_ok h
  exact ⟨n, rfl⟩

theorem int_of_optional {v : Option Value} {u : Value}
    (h : Reading.optional (.int 0) natural v = .ok u) : ∃ n : Nat, u = .int n := by
  cases v with
  | none =>
    cases h
    exact ⟨0, rfl⟩
  | some v => exact int_of_natural h

theorem eq_of_checkedFrom {n : Nat} {es es' : List Entry} (h : Entry.checkedFrom n es = .ok es') :
    es' = es := by
  induction es generalizing n es' with
  | nil =>
    cases h
    rfl
  | cons e rest ih =>
    obtain ⟨⟨first, more⟩, hboth, rfl⟩ := Reading.of_map_eq_ok h
    obtain ⟨hfirst, hmore⟩ := Reading.of_both_eq_ok hboth
    have hchecked : first = e := by
      have h := Reading.of_behind_eq_ok hfirst
      cases e with
      | bare v frame => cases v <;> cases h
      | _ =>
        cases h
        rfl
    have hrest : more = rest := ih hmore
    rw [hchecked, hrest]

/-- What a transaction consists of that is built from arguments. -/
theorem eq_of_ofArguments {args : Arguments} {es : List Entry} {t : Transaction}
    (h : ofArguments args es = .ok t) :
    ∃ (n m : Nat) (e : TimePoint) (extensions : List Extension),
      t = { refBlockNum := .int n, refBlockPrefix := .int m, expiration := e, operations := es
            extensions := extensions.map .extension } := by
  obtain ⟨build₄, extensions, h₄, _, ht⟩ := Reading.of_seq_eq_ok h
  obtain ⟨build₃, operations, h₃, hoperations, rfl⟩ := Reading.of_seq_eq_ok h₄
  obtain ⟨build₂, e, h₂, _, rfl⟩ := Reading.of_seq_eq_ok h₃
  obtain ⟨build₁, refBlockPrefix, h₁, hblock, rfl⟩ := Reading.of_seq_eq_ok h₂
  obtain ⟨refBlockNum, hnum, rfl⟩ := Reading.of_map_eq_ok h₁
  obtain ⟨n, rfl⟩ := int_of_optional (Reading.of_behind_eq_ok hnum)
  obtain ⟨m, rfl⟩ := int_of_optional (Reading.of_behind_eq_ok hblock)
  have hes := eq_of_checkedFrom (Reading.of_behind_eq_ok hoperations)
  rw [← ht, hes]
  exact ⟨n, m, e, extensions, rfl⟩

/-- A transaction that is built from checked operations has checked contents. -/
theorem exists_contents_of_ofArguments {args : Arguments} {os : List Operation} {t : Transaction}
    (h : ofArguments args (os.map Operation.toEntry) = .ok t) :
    ∃ c : Contents, c.operations = os ∧ t = c.toTransaction := by
  obtain ⟨n, m, e, extensions, rfl⟩ := eq_of_ofArguments h
  exact ⟨⟨n, m, e, os, extensions⟩, rfl, rfl⟩

/-! ## Changes -/

theorem noSurplus_of_force {t u : Transaction} {name : Text} {v : Value}
    (h : t.force name v = .ok u) (ht : t.frame.NoSurplus) : u.frame.NoSurplus := by
  unfold force at h
  split at h
  · cases h
    exact ht
  split at h
  · cases h
    exact ht
  split at h
  · cases v <;> cases h
    exact ht
  split at h
  · cases hv : v.countable? with
    | none =>
      rw [hv] at h
      cases h
    | some found =>
      rw [hv] at h
      cases h
      exact ht
  split at h
  · cases hv : v.collection? with
    | none =>
      rw [hv] at h
      cases h
    | some found =>
      rw [hv] at h
      cases h
      exact ht
  · cases h
    exact ht

section Preservation

variable {α : Type} (frame : α → Frame) {force : α → Text → Value → Except Failure α}

theorem noSurplus_of_forceAll
    (hforce : ∀ t name v u, force t name v = .ok u → (frame t).NoSurplus → (frame u).NoSurplus)
    {named : List (Text × Value)} {names : List Text} {t u : α}
    (h : forceAll force named t names = .ok u) (ht : (frame t).NoSurplus) :
    (frame u).NoSurplus := by
  induction names generalizing t with
  | nil =>
    cases h
    exact ht
  | cons name rest ih =>
    unfold forceAll at h
    cases hv : Value.entry? named name with
    | none =>
      rw [hv] at h
      cases h
    | some v =>
      rw [hv] at h
      obtain ⟨middle, hmiddle, hrest⟩ := exists_of_bind_eq_ok h
      exact ih hrest (hforce t name v middle hmiddle ht)

theorem noSurplus_of_foldlM
    (hforce : ∀ t name v u, force t name v = .ok u → (frame t).NoSurplus → (frame u).NoSurplus)
    {named : List (Text × Value)} {t u : α}
    (h : named.foldlM (fun t e ↦ force t e.1 e.2) t = .ok u) (ht : (frame t).NoSurplus) :
    (frame u).NoSurplus := by
  induction named generalizing t with
  | nil =>
    cases h
    exact ht
  | cons e rest ih =>
    rw [List.foldlM_cons] at h
    obtain ⟨middle, hmiddle, hrest⟩ := exists_of_bind_eq_ok h
    exact ih hrest (hforce t e.1 e.2 middle hmiddle ht)

/-- The ways in which an assignment goes through. -/
theorem cases_of_assigned {f : Frame} {a : Assignment} {framed : Frame → α}
    {read : Text → Value → Reading α} {settled : Text → α → Except Failure α}
    {refill : Refill → Except Failure α} {u : α}
    (h : assigned f a framed read settled refill = .ok u) :
    (∃ f', f.assign? a = some (.ok f') ∧ u = framed f') ∨
      (∃ name t, settled name t = .ok u) ∨ ∃ m, refill m = .ok u := by
  unfold assigned at h
  split at h
  · cases h
  split at h
  · cases h
  · rename_i r hassign _
    cases r with
    | error failure => cases h
    | ok f' =>
      cases h
      exact .inl ⟨f', hassign, rfl⟩
  · split at h
    · cases h
    · obtain ⟨t, _, hsettled⟩ := exists_of_bind_eq_ok h
      exact .inr (.inl ⟨_, t, hsettled⟩)
  · exact .inr (.inr ⟨_, h⟩)
  · cases h

end Preservation

theorem noSurplus_of_assign? {f f' : Frame} {a : Assignment}
    (ha : ∀ v, a ≠ .part .surplus v) (h : f.assign? a = some (.ok f')) (hf : f.NoSurplus) :
    f'.NoSurplus := by
  cases a with
  | part p v =>
    cases h
    apply Frame.noSurplus_replace hf
    intro hp
    apply ha v
    rw [hp]
  | members m => cases m <;> cases h
  | aside =>
    cases h
    exact hf
  | _ => cases h

end Transaction

namespace SignedTransaction

/-- A signed transaction that is built from checked operations has checked contents, and its
signatures are in a list. -/
theorem exists_contents_of_ofArguments {args : Arguments} {os : List Operation}
    {t : SignedTransaction} (h : ofArguments args (os.map Operation.toEntry) = .ok t) :
    ∃ c : Contents, c.operations = os ∧ t.toTransaction = c.toTransaction ∧
      t.signaturesHolder = .list := by
  obtain ⟨build, signatures, hbuild, _, rfl⟩ := Reading.of_seq_eq_ok h
  obtain ⟨base, hbase, rfl⟩ := Reading.of_map_eq_ok hbuild
  obtain ⟨c, hoperations, rfl⟩ := Transaction.exists_contents_of_ofArguments hbase
  exact ⟨c, hoperations, rfl, rfl⟩

theorem noSurplus_of_ofArguments {args : Arguments} {es : List Entry} {t : SignedTransaction}
    (h : ofArguments args es = .ok t) : t.frame.NoSurplus := by
  obtain ⟨build, signatures, hbuild, _, rfl⟩ := Reading.of_seq_eq_ok h
  obtain ⟨base, hbase, rfl⟩ := Reading.of_map_eq_ok hbuild
  obtain ⟨n, m, e, extensions, rfl⟩ := Transaction.eq_of_ofArguments hbase
  exact Frame.noSurplus_intact

theorem noSurplus_of_force {t u : SignedTransaction} {name : Text} {v : Value}
    (h : t.force name v = .ok u) (ht : t.frame.NoSurplus) : u.frame.NoSurplus := by
  unfold force at h
  split at h
  · cases h
    exact ht
  · cases hbase : t.toTransaction.force name v with
    | error failure =>
      rw [hbase] at h
      cases h
    | ok base =>
      rw [hbase] at h
      cases h
      exact Transaction.noSurplus_of_force hbase ht

/-- A checked assignment brings no members beyond the fields, unless it replaces the part that
holds them. -/
theorem noSurplus_of_assign {t u : SignedTransaction} {a : Assignment}
    (ha : ∀ v, a ≠ .part .surplus v) (h : t.assign a = .ok u) (ht : t.frame.NoSurplus) :
    u.frame.NoSurplus := by
  have hforce : ∀ (t : SignedTransaction) name v u, t.force name v = .ok u →
      t.frame.NoSurplus → u.frame.NoSurplus := by
    intro t name v u h
    exact noSurplus_of_force h
  rcases Transaction.cases_of_assigned h with ⟨f', hassign, rfl⟩ | ⟨name, t', hsettled⟩ |
    ⟨m, hrefill⟩
  · exact Transaction.noSurplus_of_assign? ha hassign ht
  · exact Transaction.noSurplus_of_foldlM (fun t : SignedTransaction ↦ t.frame) hforce
      hsettled (Frame.noSurplus_drained _)
  · unfold refilled at hrefill
    cases hall : Transaction.forceAll force m.named t
        (Transaction.fieldNames ++ [lit "signatures"]) with
    | error failure =>
      rw [hall] at hrefill
      cases hrefill
    | ok t' =>
      rw [hall] at hrefill
      cases hrefill
      exact Frame.noSurplus_refilled (Transaction.noSurplus_of_forceAll
        (fun t : SignedTransaction ↦ t.frame) hforce hall ht) m

/-- An unchecked change brings no members beyond the fields. -/
theorem noSurplus_of_put {t u : SignedTransaction} {a : Assignment} (h : t.put a = .ok u)
    (ht : t.frame.NoSurplus) : u.frame.NoSurplus := by
  cases a with
  | field name v => exact noSurplus_of_force h ht
  | part p v =>
    cases h
    exact Frame.noSurplus_put ht p v
  | _ =>
    cases h
    exact ht

end SignedTransaction

end GrapheneSigner
