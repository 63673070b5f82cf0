import GrapheneSigner.Proofs.Collection.Ledger
import GrapheneSigner.Proofs.Key.History
import GrapheneSigner.Proofs.Wire.Refusal

/-!
# Key stores answer by their history

Changes that succeed do to a store what their events say, and after any events the store holds what
the history says: the accounts that are there in the order in which they were entered, and for each
of them the keys that were written last.
-/

namespace GrapheneSigner

namespace KeyStore

variable {s s' : KeyStore} {h : List Event} {e : Event} {a b : AccountName} {role : Role}
  {k : KeyPair}

/-! ## Events -/

/-- What an event does to a store. -/
def Event.apply (s : KeyStore) : Event → KeyStore
  | registered a => s.register a
  | written a role k => s.setKey a role k
  | removed a => ⟨s.accounts.erase a⟩

theorem names_apply_of_enters (henters : e.Enters a) :
    (e.apply s).names = if a ∈ s.names then s.names else s.names ++ [a] := by
  cases e with
  | registered b =>
    cases henters
    exact Ledger.keys_put _ _ _
  | written b role k =>
    cases henters
    exact Ledger.keys_put _ _ _
  | removed b => cases henters

theorem names_apply_removed : (Event.apply s (.removed a)).names = s.names.erase a :=
  Ledger.keys_erase _ _

theorem keysOf_put (keys : Ledger Role KeyPair) :
    keysOf ⟨s.accounts.put a keys⟩ b = if a = b then keys else s.keysOf b := by
  unfold keysOf
  rw [Ledger.get?_put]
  split <;> rfl

theorem keysOf_apply_registered : (Event.apply s (.registered a)).keysOf b = s.keysOf b := by
  rw [Event.apply, register, keysOf_put]
  split
  · rename_i hab
    rw [hab]
  · rfl

theorem get?_keysOf_apply_written {r : Role} :
    ((Event.apply s (.written a role k)).keysOf b).get? r =
      if a = b ∧ role = r then some k else (s.keysOf b).get? r := by
  rw [Event.apply, setKey, keysOf_put]
  by_cases hab : a = b
  · subst hab
    rw [if_pos rfl, Ledger.get?_put]
    simp only [true_and]
  · rw [if_neg hab, if_neg fun h ↦ hab h.1]

theorem keysOf_apply_removed (hnodup : s.names.Nodup) :
    (Event.apply s (.removed a)).keysOf b = if a = b then [] else s.keysOf b := by
  by_cases hab : a = b
  · subst hab
    rw [if_pos rfl, keysOf, Event.apply, Ledger.get?_erase_self hnodup, Option.getD_none]
  · rw [if_neg hab, keysOf, Event.apply, Ledger.get?_erase_of_ne hab, keysOf]

/-! ## Histories -/

/-- The store holds what the history says. -/
structure Reflects (h : List Event) (s : KeyStore) : Prop where
  nodup : s.names.Nodup
  mem_names_iff : ∀ a, a ∈ s.names ↔ Live h a
  get?_iff : ∀ a role k, (s.keysOf a).get? role = some k ↔ LatestWrite h a role k
  ordered : s.names.Pairwise fun a b ↦ ∀ i j, EnteredAt h a i → EnteredAt h b j → i < j

theorem reflects_nil : Reflects [] empty where
  nodup := List.nodup_nil
  mem_names_iff _ := iff_of_false List.not_mem_nil not_live_nil
  get?_iff _ _ _ := iff_of_false nofun not_latestWrite_nil
  ordered := .nil

namespace Reflects

/-! ### One more event -/

theorem mem_names_apply_iff (hs : Reflects h s) (e : Event) (b : AccountName) :
    b ∈ (e.apply s).names ↔ Live (h ++ [e]) b := by
  rcases e.exists_enters_or_removed with ⟨a, henters⟩ | ⟨a, rfl⟩
  · rw [names_apply_of_enters henters, live_concat_iff_of_enters henters, ← hs.mem_names_iff b]
    split
    · rename_i hmem
      exact ⟨.inr, fun h ↦ h.elim (fun hb ↦ hb ▸ hmem) id⟩
    · rw [List.mem_append, List.mem_singleton, or_comm]
  · rw [names_apply_removed, hs.nodup.mem_erase_iff, live_concat_removed_iff, hs.mem_names_iff b]

theorem nodup_apply (hs : Reflects h s) (e : Event) : (e.apply s).names.Nodup := by
  cases e with
  | registered a => exact Ledger.nodup_keys_put hs.nodup
  | written a role k => exact Ledger.nodup_keys_put hs.nodup
  | removed a => exact Ledger.nodup_keys_erase hs.nodup

theorem get?_apply_iff (hs : Reflects h s) (e : Event) (b : AccountName) (r : Role) (c : KeyPair) :
    ((e.apply s).keysOf b).get? r = some c ↔ LatestWrite (h ++ [e]) b r c := by
  cases e with
  | registered a =>
    have hkept : Event.registered a ≠ .removed b := by rintro ⟨⟩
    have hother : ∀ c', Event.registered a ≠ .written b r c' := by rintro c' ⟨⟩
    rw [keysOf_apply_registered, latestWrite_concat_of_ne hkept hother]
    exact hs.get?_iff b r c
  | written a role k =>
    rw [get?_keysOf_apply_written]
    by_cases hplace : a = b ∧ role = r
    · obtain ⟨rfl, rfl⟩ := hplace
      rw [if_pos ⟨rfl, rfl⟩, latestWrite_concat_written_iff]
      exact Option.some_inj
    · have hkept : Event.written a role k ≠ .removed b := by rintro ⟨⟩
      have hother : ∀ c', Event.written a role k ≠ .written b r c' := by
        rintro c' ⟨⟩
        exact hplace ⟨rfl, rfl⟩
      rw [if_neg hplace, latestWrite_concat_of_ne hkept hother]
      exact hs.get?_iff b r c
  | removed a =>
    rw [keysOf_apply_removed hs.nodup]
    by_cases hab : a = b
    · subst hab
      rw [if_pos rfl]
      exact iff_of_false (Option.some_ne_none c).symm not_latestWrite_concat_removed
    · have hkept : Event.removed a ≠ .removed b := fun h ↦ hab (Event.removed.inj h)
      have hother : ∀ c', Event.removed a ≠ .written b r c' := by rintro c' ⟨⟩
      rw [if_neg hab, latestWrite_concat_of_ne hkept hother]
      exact hs.get?_iff b r c

/-- A later event leaves the places of the accounts that are there; a new one is behind them. -/
theorem ordered_apply (hs : Reflects h s) (e : Event) :
    (e.apply s).names.Pairwise
      fun a b ↦ ∀ i j, EnteredAt (h ++ [e]) a i → EnteredAt (h ++ [e]) b j → i < j := by
  -- the new event is the place only of an account that was not there
  have hplace : ∀ {b i}, b ∈ s.names → EnteredAt (h ++ [e]) b i → EnteredAt h b i := by
    intro b i hmem hi
    rcases enteredAt_concat_iff.mp hi with ⟨-, -, hnew⟩ | ⟨hi, -⟩
    · exact absurd ((hs.mem_names_iff b).mp hmem) hnew
    · exact hi
  have hkept : s.names.Pairwise
      fun a b ↦ ∀ i j, EnteredAt (h ++ [e]) a i → EnteredAt (h ++ [e]) b j → i < j :=
    hs.ordered.imp_of_mem fun ha hb hlt i j hi hj ↦ hlt i j (hplace ha hi) (hplace hb hj)
  rcases e.exists_enters_or_removed with ⟨a, henters⟩ | ⟨a, rfl⟩
  · rw [names_apply_of_enters henters]
    split
    · exact hkept
    · rename_i hnew
      rw [hs.mem_names_iff] at hnew
      rw [List.pairwise_append]
      refine ⟨hkept, List.pairwise_singleton _ _, ?_⟩
      intro b hb c hc i j hi hj
      rw [List.mem_singleton] at hc
      subst hc
      have hlast : j = h.length := by
        rcases enteredAt_concat_iff.mp hj with ⟨hj, -, -⟩ | ⟨hj, -⟩
        · exact hj
        · exact absurd hj.live hnew
      rw [hlast]
      exact (hplace hb hi).lt_length
  · rw [names_apply_removed]
    exact hkept.sublist (List.erase_sublist)

theorem apply (hs : Reflects h s) (e : Event) : Reflects (h ++ [e]) (e.apply s) :=
  ⟨hs.nodup_apply e, hs.mem_names_apply_iff e, hs.get?_apply_iff e, hs.ordered_apply e⟩

end Reflects

/-- After any events, a store holds what their history says. -/
theorem reflects_foldl (h : List Event) : Reflects h (h.foldl Event.apply empty) := by
  -- from the end, since the notions of a history are about what lies behind an event
  induction h using List.reverseRecOn with
  | nil => exact reflects_nil
  | append_singleton h e ih =>
    rw [List.foldl_concat]
    exact ih.apply e

/-! ## Changes -/

/-- A change of a store. -/
inductive Change where
  /-- Registers an account and imports its keys. -/
  | addAccount (account : Value) (keys : Ledger Role KeyMaterial)
  /-- Enters or replaces one key of an account. -/
  | addKey (account : Value) (role : Role) (m : KeyMaterial)
  /-- Removes an account with its keys. -/
  | remove (account : Value)

/-- The store after what succeeds. -/
def afterSuccess {α : Type} (outcome : KeyStore × Except Failure α) : Except Failure KeyStore :=
  outcome.2.map fun _ ↦ outcome.1

/-- The writes that importing keys makes. -/
def writes (a : AccountName) (keys : Ledger Role KeyMaterial) : Except Failure (List Event) :=
  keys.mapM fun entry ↦ entry.2.keyPair.map (.written a entry.1)

namespace Change

/-- The store after a change that succeeds. -/
def perform (s : KeyStore) : Change → Except Failure KeyStore
  | addAccount account keys => afterSuccess (s.addAccount account keys)
  | addKey account role m => afterSuccess (s.addKey account role m)
  | remove account => afterSuccess (s.remove account)

/-- The events that a change consists of. -/
def events : Change → Except Failure (List Event)
  | addAccount account keys => do
    let a ← accountOf account
    (writes a keys).map (.registered a :: ·)
  | addKey account role m => do
    let a ← accountOf account
    writes a [(role, m)]
  | remove account => (accountOf account).map fun a ↦ [.removed a]

end Change

/-- A store that was empty, after changes that succeed. -/
def changed (changes : List Change) : Except Failure KeyStore := changes.foldlM Change.perform empty

/-- The events that changes consist of. -/
def history (changes : List Change) : Except Failure (List Event) :=
  (changes.mapM Change.events).map List.flatten

theorem afterSuccess_importKeys (s : KeyStore) (a : AccountName) (keys : Ledger Role KeyMaterial) :
    afterSuccess (s.importKeys a keys) = (writes a keys).map (·.foldl Event.apply s) := by
  induction keys generalizing s with
  | nil => rfl
  | cons entry rest ih =>
    obtain ⟨role, m⟩ := entry
    unfold importKeys importKey
    rw [writes, List.mapM_cons]
    cases m.keyPair with
    | error failure => rfl
    | ok k =>
      refine (ih (s.setKey a role k)).trans ?_
      rw [writes]
      cases rest.mapM fun entry ↦ entry.2.keyPair.map (Event.written a entry.1) with
      | error failure => rfl
      | ok es => rfl

theorem afterSuccess_importKey (s : KeyStore) (a : AccountName) (role : Role) (m : KeyMaterial) :
    afterSuccess (s.importKey a role m) = (writes a [(role, m)]).map (·.foldl Event.apply s) := by
  unfold importKey
  rw [writes, List.mapM_cons]
  cases m.keyPair with
  | error failure => rfl
  | ok k => rfl

/-- Removing an account that is not there does nothing, and neither does its event. -/
theorem afterSuccess_remove (s : KeyStore) (account : Value) :
    afterSuccess (s.remove account) =
      (accountOf account).map fun a ↦ Event.apply s (.removed a) := by
  unfold KeyStore.remove
  cases accountOf account with
  | error failure => rfl
  | ok a =>
    dsimp only
    split
    · rfl
    · rename_i hmem
      rw [Ledger.isSome_get?_iff] at hmem
      rw [afterSuccess, Except.map, Except.map, Event.apply, Ledger.erase_of_not_mem hmem]

/-- A change does what its events do, and fails exactly where one of them does. -/
theorem Change.perform_eq (s : KeyStore) (c : Change) :
    c.perform s = c.events.map (·.foldl Event.apply s) := by
  cases c with
  | addAccount account keys =>
    rw [perform, events, KeyStore.addAccount]
    cases accountOf account with
    | error failure => rfl
    | ok a =>
      refine (afterSuccess_importKeys _ _ _).trans ?_
      change _ = ((writes a keys).map (Event.registered a :: ·)).map (·.foldl Event.apply s)
      cases writes a keys with
      | error failure => rfl
      | ok es => rfl
  | addKey account role m =>
    rw [perform, events, KeyStore.addKey]
    cases accountOf account with
    | error failure => rfl
    | ok a => exact afterSuccess_importKey s a role m
  | remove account =>
    rw [perform, events, afterSuccess_remove]
    cases accountOf account with
    | error failure => rfl
    | ok a => rfl

/-- Changes do what their events do, one after another. -/
theorem foldlM_perform (changes : List Change) (s : KeyStore) :
    changes.foldlM Change.perform s = (history changes).map (·.foldl Event.apply s) := by
  induction changes generalizing s with
  | nil => rfl
  | cons c rest ih =>
    rw [List.foldlM_cons, history, List.mapM_cons, c.perform_eq s]
    cases c.events with
    | error failure => rfl
    | ok es =>
      refine (ih (es.foldl Event.apply s)).trans ?_
      rw [history]
      cases rest.mapM Change.events with
      | error failure => rfl
      | ok groups =>
        change Except.ok (groups.flatten.foldl _ (es.foldl _ s)) =
          .ok ((es :: groups).flatten.foldl _ s)
        rw [List.flatten_cons, List.foldl_append]

/-- Changes that succeed have a history, and the store that they leave reflects it. -/
theorem reflects_of_changed {changes : List Change} (hs : changed changes = .ok s) :
    ∃ h, history changes = .ok h ∧ Reflects h s := by
  rw [changed, foldlM_perform] at hs
  cases hhistory : history changes with
  | error failure =>
    rw [hhistory] at hs
    cases hs
  | ok h =>
    rw [hhistory] at hs
    cases hs
    exact ⟨h, rfl, reflects_foldl h⟩

/-! ## Entering an account that is there -/

theorem mem_writes {keys : Ledger Role KeyMaterial} {es : List Event} (hes : writes a keys = .ok es)
    (he : e ∈ es) : ∃ role k, e = .written a role k ∧ role ∈ keys.keys := by
  induction keys generalizing es with
  | nil =>
    cases hes
    cases he
  | cons entry rest ih =>
    rw [writes, List.mapM_cons] at hes
    obtain ⟨first, hfirst, hes⟩ := exists_of_bind_eq_ok hes
    obtain ⟨others, hothers, hes⟩ := exists_of_bind_eq_ok hes
    cases hes
    rcases List.mem_cons.mp he with rfl | he
    · cases hk : entry.2.keyPair with
      | error failure =>
        rw [hk] at hfirst
        cases hfirst
      | ok k =>
        rw [hk] at hfirst
        cases hfirst
        exact ⟨entry.1, k, rfl, List.mem_cons_self⟩
    · obtain ⟨role, k, hwritten, hmem⟩ := ih hothers he
      exact ⟨role, k, hwritten, List.mem_cons_of_mem _ hmem⟩

/-- Entering an account that is there leaves the accounts in their places. -/
theorem names_foldl_of_enters {es : List Event} (henters : ∀ e ∈ es, e.Enters a)
    (hmem : a ∈ s.names) : (es.foldl Event.apply s).names = s.names := by
  induction es generalizing s with
  | nil => rfl
  | cons e rest ih =>
    obtain ⟨hfirst, hrest⟩ := List.forall_mem_cons.mp henters
    have hnames : (e.apply s).names = s.names := by
      rw [names_apply_of_enters hfirst, if_pos hmem]
    exact (ih hrest (hnames ▸ hmem)).trans hnames

/-- Entering an account leaves all keys but those that are written. -/
theorem get?_keysOf_foldl {es : List Event} (henters : ∀ e ∈ es, e.Enters a)
    (hother : ∀ k, .written b role k ∉ es) :
    ((es.foldl Event.apply s).keysOf b).get? role = (s.keysOf b).get? role := by
  induction es generalizing s with
  | nil => rfl
  | cons e rest ih =>
    obtain ⟨hfirst, hrest⟩ := List.forall_mem_cons.mp henters
    have hkeys : ((e.apply s).keysOf b).get? role = (s.keysOf b).get? role := by
      cases e with
      | registered c => rw [keysOf_apply_registered]
      | written c r k =>
        rw [get?_keysOf_apply_written, if_neg]
        rintro ⟨rfl, rfl⟩
        exact hother k List.mem_cons_self
      | removed c => cases hfirst
    exact (ih hrest fun k hk ↦ hother k (List.mem_cons_of_mem e hk)).trans hkeys

/-! ## Answers -/

/-- The message about an account that is not there. -/
def notAdded (a : AccountName) : Text :=
  lit "The account '" ++ a.name ++ lit "' has not been added to the key store"

/-- The message about an account that has no key for a role. -/
def notStored (role : Role) (a : AccountName) : Text :=
  lit "No " ++ role.name ++ lit " key stored for account '" ++ a.name ++ lit "'"

theorem notAdded_ne_notStored (a b : AccountName) (role : Role) :
    notAdded a ≠ notStored role b := by
  intro h
  have hfirst := congrArg List.head? h
  change (lit "T").head? = (lit "N").head? at hfirst
  revert hfirst
  decide

theorem missing_inj {message message' : Text} {role : Role} {a : AccountName}
    (h : missing message role a = missing message' role a) : message = message' := by
  injection h with hfault
  injection hfault with hreport
  injection hreport

theorem resolve_of_not_mem (hmem : a ∉ s.names) (role : Role) :
    s.resolve role a = .error (missing (notAdded a) role a) := by
  rw [resolve, (Ledger.get?_eq_none_iff a s.accounts).mpr hmem]
  rfl

theorem resolve_of_mem (hmem : a ∈ s.names) (role : Role) :
    s.resolve role a = match (s.keysOf a).get? role with
      | some k => .ok k
      | none => .error (missing (notStored role a) role a) := by
  obtain ⟨keys, hkeys⟩ :=
    Option.isSome_iff_exists.mp ((Ledger.isSome_get?_iff a s.accounts).mpr hmem)
  rw [resolve, keysOf, hkeys]
  rfl

theorem resolve_congr (hnames : s'.names = s.names)
    (hkeys : (s'.keysOf a).get? role = (s.keysOf a).get? role) :
    s'.resolve role a = s.resolve role a := by
  by_cases hmem : a ∈ s.names
  · rw [resolve_of_mem hmem, resolve_of_mem (hnames ▸ hmem), hkeys]
  · rw [resolve_of_not_mem hmem, resolve_of_not_mem (hnames ▸ hmem)]

/-- Registering an account that is there leaves the accounts in their places, and all keys but those
that are entered with it. -/
theorem kept_of_addAccount {account : Value} {keys : Ledger Role KeyMaterial}
    (hs : (Change.addAccount account keys).perform s = .ok s')
    (haccount : accountOf account = .ok a) (hmem : a ∈ s.names) :
    s'.names = s.names ∧
      ∀ b role, (b = a → role ∉ keys.keys) → s'.resolve role b = s.resolve role b := by
  rw [Change.perform_eq, Change.events, haccount] at hs
  change ((writes a keys).map (Event.registered a :: ·)).map (·.foldl Event.apply s) = .ok s' at hs
  cases hes : writes a keys with
  | error failure =>
    rw [hes] at hs
    cases hs
  | ok es =>
    rw [hes] at hs
    cases hs
    have henters : ∀ e ∈ .registered a :: es, e.Enters a := by
      refine List.forall_mem_cons.mpr ⟨rfl, fun e he ↦ ?_⟩
      obtain ⟨role, k, rfl, -⟩ := mem_writes hes he
      exact Event.enters_written
    have hnames := names_foldl_of_enters henters hmem
    refine ⟨hnames, fun b role hother ↦ resolve_congr hnames (get?_keysOf_foldl henters ?_)⟩
    intro k hk
    rcases List.mem_cons.mp hk with hk | hk
    · cases hk
    · obtain ⟨r, k', hwritten, hrole⟩ := mem_writes hes hk
      cases hwritten
      exact hother rfl hrole

namespace Reflects

theorem resolve_eq_ok_iff (hs : Reflects h s) :
    s.resolve role a = .ok k ↔ LatestWrite h a role k := by
  rw [← hs.get?_iff a role k]
  by_cases hmem : a ∈ s.names
  · rw [resolve_of_mem hmem]
    cases (s.keysOf a).get? role with
    | none => exact iff_of_false nofun nofun
    | some k' =>
      exact ⟨fun h ↦ congrArg some (Except.ok.inj h), fun h ↦ congrArg _ (Option.some.inj h)⟩
  · rw [resolve_of_not_mem hmem]
    refine iff_of_false nofun fun hk ↦ hmem ?_
    exact (hs.mem_names_iff a).mpr ((hs.get?_iff a role k).mp hk).live

theorem resolve_eq_notAdded_iff (hs : Reflects h s) :
    s.resolve role a = .error (missing (notAdded a) role a) ↔ ¬ Live h a := by
  rw [← hs.mem_names_iff a]
  refine ⟨fun hresolve hmem ↦ ?_, fun hmem ↦ resolve_of_not_mem hmem role⟩
  rw [resolve_of_mem hmem] at hresolve
  cases hkey : (s.keysOf a).get? role with
  | none =>
    rw [hkey] at hresolve
    exact notAdded_ne_notStored a a role (missing_inj (Except.error.inj hresolve)).symm
  | some k =>
    rw [hkey] at hresolve
    cases hresolve

theorem resolve_eq_notStored_iff (hs : Reflects h s) :
    s.resolve role a = .error (missing (notStored role a) role a) ↔
      Live h a ∧ ∀ k, ¬ LatestWrite h a role k := by
  constructor
  · intro hresolve
    refine ⟨?_, fun k hk ↦ ?_⟩
    · by_contra hlive
      rw [hs.resolve_eq_notAdded_iff.mpr hlive] at hresolve
      exact notAdded_ne_notStored a a role (missing_inj (Except.error.inj hresolve))
    · rw [hs.resolve_eq_ok_iff.mpr hk] at hresolve
      cases hresolve
  · rintro ⟨hlive, hnone⟩
    rw [resolve_of_mem ((hs.mem_names_iff a).mpr hlive)]
    cases hkey : (s.keysOf a).get? role with
    | none => rfl
    | some k => exact absurd ((hs.get?_iff a role k).mp hkey) (hnone k)

theorem exists_remove (hs : Reflects h s) {account : Value} (haccount : accountOf account = .ok a) :
    ∃ found, (s.remove account).2 = .ok found ∧ (found = true ↔ Live h a) := by
  rw [← hs.mem_names_iff a, names, ← Ledger.isSome_get?_iff, KeyStore.remove, haccount]
  dsimp only
  split
  · exact ⟨true, rfl, iff_of_true rfl ‹_›⟩
  · exact ⟨false, rfl, iff_of_false Bool.false_ne_true ‹_›⟩

end Reflects

/-- The text of an account name names the account, as the account itself does. -/
theorem accountOf_chars (a : AccountName) : accountOf (.chars a.name) = .ok a := by
  change ((Reading.ofExcept (AccountName.read a.name)).at "name").run = .ok a
  rw [AccountName.read_eq_ok_iff.mpr rfl]
  rfl

/-- A key store is an ordered map from accounts to maps from roles to keys, and answers by its
history since the last removal of each account.

After any changes that succeed, a lookup gives the key that was written last for the account and the
role, and otherwise says that the account is not there, or else that it has no such key.  Removing
an account tells whether it was there.  Every account that is there is listed once, and the accounts
stand in the order of the events that entered them first.  Registering an account that is there
leaves it in its place, and leaves all keys but those that are entered with it. -/
theorem answers_history {changes : List Change} (hs : changed changes = .ok s) :
    ∃ h, history changes = .ok h ∧
      (∀ role a,
        (∀ k, s.resolve role a = .ok k ↔ LatestWrite h a role k) ∧
        (s.resolve role a = .error (missing (notAdded a) role a) ↔ ¬ Live h a) ∧
        (s.resolve role a = .error (missing (notStored role a) role a) ↔
          Live h a ∧ ∀ k, ¬ LatestWrite h a role k)) ∧
      (∀ account a, accountOf account = .ok a →
        (∀ role, s.keyFor role account = s.resolve role a) ∧
        ∃ found, (s.remove account).2 = .ok found ∧ (found = true ↔ Live h a)) ∧
      (s.names.Nodup ∧ (∀ a, a ∈ s.names ↔ Live h a) ∧ (∀ a ∈ s.names, ∃ i, EnteredAt h a i) ∧
        s.names.Pairwise fun a b ↦ ∀ i j, EnteredAt h a i → EnteredAt h b j → i < j) ∧
      ∀ account keys a s', (Change.addAccount account keys).perform s = .ok s' →
        accountOf account = .ok a → Live h a →
        s'.names = s.names ∧
          ∀ b role, (b = a → role ∉ keys.keys) → s'.resolve role b = s.resolve role b := by
  obtain ⟨h, hhistory, hreflects⟩ := reflects_of_changed hs
  refine ⟨h, hhistory, ?_, ?_, ?_, ?_⟩
  · intro role a
    exact ⟨fun k ↦ hreflects.resolve_eq_ok_iff, hreflects.resolve_eq_notAdded_iff,
      hreflects.resolve_eq_notStored_iff⟩
  · intro account a haccount
    refine ⟨fun role ↦ ?_, hreflects.exists_remove haccount⟩
    rw [keyFor, haccount]
    rfl
  · exact ⟨hreflects.nodup, hreflects.mem_names_iff,
      fun a hmem ↦ ((hreflects.mem_names_iff a).mp hmem).exists_enteredAt, hreflects.ordered⟩
  · intro account keys a s' hperform haccount hlive
    exact kept_of_addAccount hperform haccount ((hreflects.mem_names_iff a).mpr hlive)

/-- Alice is registered with a posting key, then bob, and alice is removed.  She comes back with an
active key only and stands behind bob, who has been registered once more and got a key. -/
theorem answers_history_return :
    let alice : AccountName := ⟨lit "alice", by decide⟩
    let bob : AccountName := ⟨lit "bob", by decide⟩
    let first : KeyPair := ⟨1, true, by decide, by decide⟩
    let second : KeyPair := ⟨2, true, by decide, by decide⟩
    ∃ s h, changed [.addAccount (.chars alice.name) [(.posting, .pair first)],
        .addAccount (.account bob) [], .remove (.account alice),
        .addKey (.chars alice.name) .active (.pair second),
        .addAccount (.chars bob.name) [(.posting, .pair first)]] = .ok s ∧
      s.names = [bob, alice] ∧
      LatestWrite h bob .posting first ∧ LatestWrite h alice .active second ∧
      Live h alice ∧ ∀ k, ¬ LatestWrite h alice .posting k := by
  intro alice bob first second
  have hs : changed [.addAccount (.chars alice.name) [(.posting, .pair first)],
      .addAccount (.account bob) [], .remove (.account alice),
      .addKey (.chars alice.name) .active (.pair second),
      .addAccount (.chars bob.name) [(.posting, .pair first)]]
        = .ok ⟨[(bob, [(.posting, first)]), (alice, [(.active, second)])]⟩ := by
    rw [changed, foldlM_perform, history]
    simp only [List.mapM_cons, Change.events, accountOf_chars]
    rfl
  obtain ⟨h, _, hlookups, _, ⟨_, hlive, _⟩, _⟩ := answers_history hs
  refine ⟨_, h, hs, rfl, ?_, ?_, ?_, ?_⟩
  · exact ((hlookups .posting bob).1 first).mp rfl
  · exact ((hlookups .active alice).1 second).mp rfl
  · exact (hlive alice).mp (by decide)
  · exact ((hlookups .posting alice).2.2.mp rfl).2

end KeyStore

end GrapheneSigner
