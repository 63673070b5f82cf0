import GrapheneSigner.Proofs.Key.Store

/-!
# What a refused change leaves

Entering one key and removing an account leave the store alone when they fail, since the account is
read and the key is imported before the store is touched.  Registering an account with its keys is
different: the account is registered first, and its keys are entered one by one up to the first that
cannot be imported.  What a failure leaves is then the store that registering the account with the
keys in front of that one leaves.
-/

namespace GrapheneSigner

namespace KeyStore

variable {s : KeyStore} {a : AccountName} {role : Role} {k : KeyPair} {m : KeyMaterial}
  {keys : Ledger Role KeyMaterial} {failure : Failure}

/-! ## Changes that change nothing -/

theorem register_eq_self_iff : s.register a = s ↔ a ∈ s.names := by
  have hentry : s.register a = s ↔ s.accounts.get? a = some (s.keysOf a) := by
    rw [← Ledger.put_eq_self_iff, register, KeyStore.mk.injEq]
  rw [hentry, names, ← Ledger.isSome_get?_iff, keysOf]
  cases s.accounts.get? a with
  | none => exact iff_of_false (Option.some_ne_none _).symm Bool.false_ne_true
  | some keys => exact iff_of_true rfl rfl

theorem setKey_eq_self (hkey : (s.keysOf a).get? role = some k) : s.setKey a role k = s := by
  have hmem : a ∈ s.names := by
    rw [names, ← Ledger.isSome_get?_iff]
    by_contra hnone
    rw [keysOf, Option.not_isSome_iff_eq_none.mp hnone] at hkey
    cases hkey
  rw [setKey, Ledger.put_eq_self_iff.mpr hkey]
  exact register_eq_self_iff.mpr hmem

/-! ## Keys one by one -/

theorem importKeys_cons_of_ok (s : KeyStore) (a : AccountName) (role : Role)
    (hk : m.keyPair = .ok k) :
    s.importKeys a ((role, m) :: keys) = (s.setKey a role k).importKeys a keys := by
  rw [importKeys, importKey, hk]

theorem importKeys_cons_of_error (s : KeyStore) (a : AccountName) (role : Role)
    (hk : m.keyPair = .error failure) :
    s.importKeys a ((role, m) :: keys) = (s, .error failure) := by
  rw [importKeys, importKey, hk]

/-- Importing fails at the first key that cannot be imported, behind the keys in front of it. -/
theorem exists_of_importKeys_error (hfail : (s.importKeys a keys).2 = .error failure) :
    ∃ before role m behind, keys = before ++ (role, m) :: behind ∧ m.keyPair = .error failure ∧
      s.importKeys a before = ((s.importKeys a keys).1, .ok ()) := by
  induction keys generalizing s with
  | nil => cases hfail
  | cons entry rest ih =>
    obtain ⟨role, m⟩ := entry
    cases hk : m.keyPair with
    | error first =>
      rw [importKeys_cons_of_error s a role hk] at hfail ⊢
      cases hfail
      exact ⟨[], role, m, rest, rfl, hk, rfl⟩
    | ok k =>
      rw [importKeys_cons_of_ok s a role hk] at hfail ⊢
      obtain ⟨before, r, bad, behind, rfl, hbad, hbefore⟩ := ih hfail
      refine ⟨(role, m) :: before, r, bad, behind, rfl, hbad, ?_⟩
      rw [importKeys_cons_of_ok s a role hk, hbefore]

theorem mem_names_put (keys : Ledger Role KeyPair) : a ∈ names ⟨s.accounts.put a keys⟩ := by
  rw [names, ← Ledger.isSome_get?_iff, Ledger.get?_put, if_pos rfl]
  rfl

theorem mem_names_importKeys (hmem : a ∈ s.names) : a ∈ (s.importKeys a keys).1.names := by
  induction keys generalizing s with
  | nil => exact hmem
  | cons entry rest ih =>
    obtain ⟨role, m⟩ := entry
    cases hk : m.keyPair with
    | error failure =>
      rw [importKeys_cons_of_error s a role hk]
      exact hmem
    | ok k =>
      rw [importKeys_cons_of_ok s a role hk]
      exact ih (mem_names_put _)

theorem get?_importKeys_of_not_mem (hrole : role ∉ keys.keys) :
    ((s.importKeys a keys).1.keysOf a).get? role = (s.keysOf a).get? role := by
  induction keys generalizing s with
  | nil => rfl
  | cons entry rest ih =>
    obtain ⟨r, m⟩ := entry
    obtain ⟨hne, hrest⟩ := not_or.mp (List.mem_cons.not.mp hrole)
    cases hk : m.keyPair with
    | error failure => rw [importKeys_cons_of_error s a r hk]
    | ok k =>
      rw [importKeys_cons_of_ok s a r hk, ih hrest, setKey, keysOf_put, if_pos rfl,
        Ledger.get?_put, if_neg (Ne.symm hne)]

/-- The account has all these keys. -/
def Has (s : KeyStore) (a : AccountName) (keys : Ledger Role KeyMaterial) : Prop :=
  ∀ e ∈ keys, ∃ k, e.2.keyPair = .ok k ∧ (s.keysOf a).get? e.1 = some k

theorem importKeys_eq_self (hhas : s.Has a keys) : s.importKeys a keys = (s, .ok ()) := by
  induction keys with
  | nil => rfl
  | cons entry rest ih =>
    obtain ⟨role, m⟩ := entry
    obtain ⟨⟨k, hk, hkey⟩, hrest⟩ := List.forall_mem_cons.mp hhas
    rw [importKeys_cons_of_ok s a role hk, setKey_eq_self hkey, ih hrest]

/-- An account has the keys that were entered for it; no later key takes the place of an earlier one
where the roles are without duplicates. -/
theorem has_of_importKeys_ok (hnodup : keys.keys.Nodup) (hok : (s.importKeys a keys).2 = .ok ()) :
    (s.importKeys a keys).1.Has a keys := by
  induction keys generalizing s with
  | nil => exact fun e he ↦ absurd he List.not_mem_nil
  | cons entry rest ih =>
    obtain ⟨role, m⟩ := entry
    obtain ⟨hrole, hrest⟩ := List.nodup_cons.mp hnodup
    cases hk : m.keyPair with
    | error failure =>
      rw [importKeys_cons_of_error s a role hk] at hok
      cases hok
    | ok k =>
      rw [importKeys_cons_of_ok s a role hk] at hok ⊢
      refine List.forall_mem_cons.mpr ⟨⟨k, hk, ?_⟩, ih hrest hok⟩
      rw [get?_importKeys_of_not_mem hrole, setKey, keysOf_put, if_pos rfl, Ledger.get?_put,
        if_pos rfl]

/-! ## Refused changes -/

theorem addAccount_of_ok {account : Value} (haccount : accountOf account = .ok a) :
    s.addAccount account keys = (s.register a).importKeys a keys := by
  rw [addAccount, haccount]

theorem addKey_of_error {account : Value} (hfail : (s.addKey account role m).2 = .error failure) :
    (s.addKey account role m).1 = s := by
  unfold addKey importKey at hfail ⊢
  cases haccount : accountOf account with
  | error first => rfl
  | ok a =>
    rw [haccount] at hfail
    cases hk : m.keyPair with
    | error first => rfl
    | ok k =>
      simp only [hk] at hfail
      cases hfail

theorem remove_of_error {account : Value} (hfail : (s.remove account).2 = .error failure) :
    (s.remove account).1 = s := by
  unfold remove at hfail ⊢
  cases haccount : accountOf account with
  | error first => rfl
  | ok a =>
    rw [haccount] at hfail
    dsimp only at hfail
    split at hfail <;> cases hfail

/-- Adding keys to an account that is there and has them leaves the store as it is, and nothing else
does. -/
theorem addAccount_eq_self_iff {account : Value} (haccount : accountOf account = .ok a)
    (hnodup : keys.keys.Nodup) (hok : (s.addAccount account keys).2 = .ok ()) :
    (s.addAccount account keys).1 = s ↔ a ∈ s.names ∧ s.Has a keys := by
  rw [addAccount_of_ok haccount] at hok ⊢
  constructor
  · intro hself
    have hmem : a ∈ ((s.register a).importKeys a keys).1.names :=
      mem_names_importKeys (mem_names_put (s.keysOf a))
    have hhas := has_of_importKeys_ok hnodup hok
    rw [hself] at hhas
    exact ⟨hself ▸ hmem, hhas⟩
  · rintro ⟨hmem, hhas⟩
    rw [register_eq_self_iff.mpr hmem, importKeys_eq_self hhas]

/-- What a refused change leaves.

Entering one key and removing an account leave the store as it was.  Registering an account with
keys does so where the account cannot be read.  Otherwise a first key cannot be imported, and the
failure is its failure.  The store is then the one after the account was registered with the keys in
front of that key, and so it is as it was only where the account was there and had all of them. -/
theorem left_of_refused (s : KeyStore) :
    (∀ account role m failure, (s.addKey account role m).2 = .error failure →
      (s.addKey account role m).1 = s) ∧
    (∀ account failure, (s.remove account).2 = .error failure → (s.remove account).1 = s) ∧
    ∀ account keys failure, keys.keys.Nodup → (s.addAccount account keys).2 = .error failure →
      (accountOf account = .error failure ∧ (s.addAccount account keys).1 = s) ∨
      ∃ a before role m behind,
        accountOf account = .ok a ∧ keys = before ++ (role, m) :: behind ∧
        m.keyPair = .error failure ∧
        s.addAccount account before = ((s.addAccount account keys).1, .ok ()) ∧
        ((s.addAccount account keys).1 = s ↔ a ∈ s.names ∧ s.Has a before) := by
  refine ⟨fun _ _ _ _ ↦ addKey_of_error, fun _ _ ↦ remove_of_error, ?_⟩
  intro account keys failure hnodup hfail
  cases haccount : accountOf account with
  | error first =>
    rw [addAccount, haccount] at hfail ⊢
    cases hfail
    exact .inl ⟨rfl, rfl⟩
  | ok a =>
    rw [addAccount_of_ok haccount] at hfail
    obtain ⟨before, role, m, behind, rfl, hbad, hbefore⟩ := exists_of_importKeys_error hfail
    rw [← addAccount_of_ok haccount, ← addAccount_of_ok haccount] at hbefore
    have hfront : before.keys.Nodup :=
      hnodup.sublist ((List.sublist_append_left _ _).map Prod.fst)
    have hself := addAccount_eq_self_iff haccount hfront (congrArg Prod.snd hbefore)
    rw [hbefore] at hself
    exact .inr ⟨a, before, role, m, behind, rfl, rfl, hbad, hbefore, hself⟩

/-- Alice is there with a posting key, and is registered again with the same posting key and an
active key that cannot be imported: the store stays as it is, since the first key is the one that
she has. -/
theorem left_of_refused_again :
    let alice : AccountName := ⟨lit "alice", by decide⟩
    let first : KeyPair := ⟨1, true, by decide, by decide⟩
    let bad : KeyMaterial := .wallet (lit "not a key")
    let s : KeyStore := ⟨[(alice, [(.posting, first)])]⟩
    let keys : Ledger Role KeyMaterial := [(.posting, .pair first), (.active, bad)]
    ∃ failure, bad.keyPair = .error failure ∧
      (s.addAccount (.chars alice.name) keys).2 = .error failure ∧
      (s.addAccount (.chars alice.name) keys).1 = s := by
  intro alice first bad s keys
  have hnone : bad.keyPair.toOption = none := by decide +kernel
  obtain ⟨failure, hbad⟩ := exists_error_of_toOption hnone
  have hfail : (s.addAccount (.chars alice.name) keys).2 = .error failure := by
    rw [addAccount_of_ok (accountOf_chars alice), importKeys_cons_of_ok _ _ _ (k := first) rfl,
      importKeys_cons_of_error _ _ _ hbad]
  refine ⟨failure, hbad, hfail, ?_⟩
  rcases (left_of_refused s).2.2 (.chars alice.name) keys failure (by decide) hfail with
    ⟨-, hself⟩ | ⟨a, before, role, m, behind, haccount, hkeys, hm, -, hself⟩
  · exact hself
  · rw [accountOf_chars] at haccount
    cases haccount
    -- the first key can be imported, so that it stands in front of the bad one
    rcases before with _ | ⟨e, _ | ⟨e', rest⟩⟩
    · injection hkeys with hentry
      cases hentry
      cases hm
    · injection hkeys with hentry
      subst hentry
      refine hself.mpr ⟨List.mem_singleton.mpr rfl, ?_⟩
      exact List.forall_mem_singleton.mpr ⟨first, rfl, rfl⟩
    · injection hkeys with _ hkeys
      injection hkeys with _ hkeys
      exact absurd hkeys.symm (List.append_ne_nil_of_right_ne_nil _ (List.cons_ne_nil _ _))

/-- Registering alice with a posting key that cannot be imported fails, and leaves her in the store
without keys. -/
theorem exists_registered_of_refused :
    let alice : AccountName := ⟨lit "alice", by decide⟩
    let keys : Ledger Role KeyMaterial := [(.posting, .wallet (lit "not a key"))]
    ∃ failure, (empty.addAccount (.chars alice.name) keys).2 = .error failure ∧
      (empty.addAccount (.chars alice.name) keys).1 = ⟨[(alice, [])]⟩ ∧
      (empty.addAccount (.chars alice.name) keys).1 ≠ empty := by
  intro alice keys
  have hnone : (KeyMaterial.wallet (lit "not a key")).keyPair.toOption = none := by decide +kernel
  obtain ⟨failure, hbad⟩ := exists_error_of_toOption hnone
  have hadd : empty.addAccount (.chars alice.name) keys = (⟨[(alice, [])]⟩, .error failure) := by
    rw [addAccount_of_ok (accountOf_chars alice), importKeys_cons_of_error _ _ _ hbad]
    rfl
  rw [hadd]
  refine ⟨failure, rfl, rfl, ?_⟩
  intro h
  cases h

end KeyStore

end GrapheneSigner
