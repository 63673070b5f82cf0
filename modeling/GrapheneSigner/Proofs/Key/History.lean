import Mathlib.Data.List.Induction
import Mathlib.Data.Nat.Notation
import GrapheneSigner.Key.Store

/-!
# Histories of key stores

What happens to a key store is a list of events: accounts are registered, keys are written, and
accounts are removed.  Such a history says what a store has to answer.  An account is there if it
has been entered since its last removal, its key for a role is the one that was written last since
then, and its place is the one of the event that entered it first.

Every one of these notions splits the history at one event and speaks of what lies behind it.  So
there is one law for each about a history with one more event at its end.
-/

namespace GrapheneSigner

namespace KeyStore

/-- What happens to a store. -/
inductive Event where
  /-- An account is registered. -/
  | registered (a : AccountName)
  /-- An account gets a key for a role. -/
  | written (a : AccountName) (role : Role) (k : KeyPair)
  /-- An account is removed with its keys. -/
  | removed (a : AccountName)

namespace Event

/-- The event enters the account, unless it is there already. -/
def Enters (a : AccountName) : Event → Prop
  | registered b => b = a
  | written b _ _ => b = a
  | removed _ => False

variable {a b : AccountName} {e : Event}

theorem ne_removed_of_enters (h : e.Enters a) : e ≠ .removed b := by
  rintro rfl
  exact h

theorem Enters.eq (ha : e.Enters a) (hb : e.Enters b) : a = b := by
  cases e with
  | registered c => exact ha.symm.trans hb
  | written c role k => exact ha.symm.trans hb
  | removed c => cases ha

theorem enters_written {role : Role} {k : KeyPair} : (written a role k).Enters a := rfl

/-- An event enters an account or removes one. -/
theorem exists_enters_or_removed (e : Event) : (∃ a, e.Enters a) ∨ ∃ a, e = .removed a := by
  cases e with
  | registered a => exact .inl ⟨a, rfl⟩
  | written a role k => exact .inl ⟨a, rfl⟩
  | removed a => exact .inr ⟨a, rfl⟩

end Event

variable {h : List Event} {e : Event} {a b : AccountName} {role : Role} {k : KeyPair} {i : ℕ}

/-- The account has been entered since its last removal. -/
def Live (h : List Event) (a : AccountName) : Prop :=
  ∃ before e behind, h = before ++ e :: behind ∧ e.Enters a ∧ .removed a ∉ behind

/-- The key is the last one that was written for the account and the role since the last removal of
the account. -/
def LatestWrite (h : List Event) (a : AccountName) (role : Role) (k : KeyPair) : Prop :=
  ∃ before behind, h = before ++ .written a role k :: behind ∧ .removed a ∉ behind ∧
    ∀ k', .written a role k' ∉ behind

/-- Event number `i` is the first one that has entered the account since its last removal. -/
def EnteredAt (h : List Event) (a : AccountName) (i : ℕ) : Prop :=
  ∃ before e behind, h = before ++ e :: behind ∧ before.length = i ∧ e.Enters a ∧
    ¬ Live before a ∧ .removed a ∉ behind

/-! ## Before anything has happened -/

theorem not_live_nil : ¬ Live [] a := by
  rintro ⟨before, e, behind, hsplit, -⟩
  exact List.append_ne_nil_of_right_ne_nil before (List.cons_ne_nil e behind) hsplit.symm

theorem not_latestWrite_nil : ¬ LatestWrite [] a role k := by
  rintro ⟨before, behind, hsplit, -⟩
  exact List.append_ne_nil_of_right_ne_nil before (List.cons_ne_nil _ behind) hsplit.symm

/-! ## One more event -/

/-- A history with one more event is split either at that event or at an earlier one. -/
theorem concat_eq_split_iff {before behind : List Event} {x : Event} :
    h ++ [e] = before ++ x :: behind ↔
      (before = h ∧ x = e ∧ behind = []) ∨
      ∃ between, h = before ++ x :: between ∧ behind = between ++ [e] := by
  constructor
  · intro hsplit
    rcases List.eq_nil_or_concat behind with rfl | ⟨between, last, rfl⟩
    · obtain ⟨hbefore, hlast⟩ := List.append_inj' hsplit rfl
      cases hlast
      exact .inl ⟨hbefore.symm, rfl, rfl⟩
    · rw [List.concat_eq_append, ← List.cons_append, ← List.append_assoc] at hsplit
      obtain ⟨hbefore, hlast⟩ := List.append_inj' hsplit rfl
      cases hlast
      exact .inr ⟨between, hbefore, List.concat_eq_append⟩
  · rintro (⟨rfl, rfl, rfl⟩ | ⟨between, rfl, rfl⟩)
    · rfl
    · rw [List.append_assoc, List.cons_append]

theorem live_concat_iff : Live (h ++ [e]) a ↔ e.Enters a ∨ (Live h a ∧ e ≠ .removed a) := by
  constructor
  · rintro ⟨before, x, behind, hsplit, henters, hkept⟩
    rcases concat_eq_split_iff.mp hsplit with ⟨rfl, rfl, rfl⟩ | ⟨between, hearlier, rfl⟩
    · exact .inl henters
    · rw [List.mem_append, List.mem_singleton, not_or] at hkept
      exact .inr ⟨⟨before, x, between, hearlier, henters, hkept.1⟩, Ne.symm hkept.2⟩
  · rintro (henters | ⟨⟨before, x, between, hearlier, henters, hkept⟩, hlast⟩)
    · exact ⟨h, e, [], rfl, henters, List.not_mem_nil⟩
    · refine ⟨before, x, between ++ [e], concat_eq_split_iff.mpr (.inr ⟨between, hearlier, rfl⟩),
        henters, ?_⟩
      rw [List.mem_append, List.mem_singleton, not_or]
      exact ⟨hkept, Ne.symm hlast⟩

theorem live_concat_iff_of_enters (henters : e.Enters a) :
    Live (h ++ [e]) b ↔ b = a ∨ Live h b := by
  rw [live_concat_iff]
  constructor
  · rintro (hb | ⟨hlive, -⟩)
    · exact .inl (hb.eq henters)
    · exact .inr hlive
  · rintro (rfl | hlive)
    · exact .inl henters
    · exact .inr ⟨hlive, Event.ne_removed_of_enters henters⟩

theorem live_concat_removed_iff : Live (h ++ [.removed a]) b ↔ b ≠ a ∧ Live h b := by
  rw [live_concat_iff]
  constructor
  · rintro (henters | ⟨hlive, hkept⟩)
    · cases henters
    · exact ⟨fun hb ↦ hkept (congrArg _ hb.symm), hlive⟩
  · rintro ⟨hne, hlive⟩
    exact .inr ⟨hlive, fun h ↦ hne (Event.removed.inj h).symm⟩

theorem latestWrite_concat_iff : LatestWrite (h ++ [e]) a role k ↔
    e = .written a role k ∨
      (LatestWrite h a role k ∧ e ≠ .removed a ∧ ∀ k', e ≠ .written a role k') := by
  constructor
  · rintro ⟨before, behind, hsplit, hkept, hlatest⟩
    rcases concat_eq_split_iff.mp hsplit with ⟨rfl, rfl, rfl⟩ | ⟨between, hearlier, rfl⟩
    · exact .inl rfl
    · simp only [List.mem_append, List.mem_singleton, not_or] at hkept hlatest
      exact .inr ⟨⟨before, between, hearlier, hkept.1, fun k' ↦ (hlatest k').1⟩, Ne.symm hkept.2,
        fun k' ↦ Ne.symm (hlatest k').2⟩
  · rintro (rfl | ⟨⟨before, between, hearlier, hkept, hlatest⟩, hlast, hother⟩)
    · exact ⟨h, [], rfl, List.not_mem_nil, fun k' ↦ List.not_mem_nil⟩
    · refine ⟨before, between ++ [e], concat_eq_split_iff.mpr (.inr ⟨between, hearlier, rfl⟩), ?_⟩
      simp only [List.mem_append, List.mem_singleton, not_or]
      exact ⟨⟨hkept, Ne.symm hlast⟩, fun k' ↦ ⟨hlatest k', Ne.symm (hother k')⟩⟩

/-- The last write is the latest one. -/
theorem latestWrite_concat_written_iff {c : KeyPair} :
    LatestWrite (h ++ [.written a role k]) a role c ↔ k = c := by
  rw [latestWrite_concat_iff]
  constructor
  · rintro (hlast | ⟨-, -, hother⟩)
    · cases hlast
      rfl
    · exact absurd rfl (hother k)
  · rintro rfl
    exact .inl rfl

theorem not_latestWrite_concat_removed : ¬ LatestWrite (h ++ [.removed a]) a role k := by
  rw [latestWrite_concat_iff]
  rintro (hlast | ⟨-, hkept, -⟩)
  · cases hlast
  · exact hkept rfl

theorem latestWrite_concat_of_ne (hkept : e ≠ .removed a) (hother : ∀ k', e ≠ .written a role k') :
    LatestWrite (h ++ [e]) a role k ↔ LatestWrite h a role k := by
  rw [latestWrite_concat_iff]
  exact ⟨fun h ↦ (h.resolve_left (hother k)).1, fun h ↦ .inr ⟨h, hkept, hother⟩⟩

theorem enteredAt_concat_iff : EnteredAt (h ++ [e]) a i ↔
    (i = h.length ∧ e.Enters a ∧ ¬ Live h a) ∨ (EnteredAt h a i ∧ e ≠ .removed a) := by
  constructor
  · rintro ⟨before, x, behind, hsplit, hlength, henters, hnew, hkept⟩
    rcases concat_eq_split_iff.mp hsplit with ⟨rfl, rfl, rfl⟩ | ⟨between, hearlier, rfl⟩
    · exact .inl ⟨hlength.symm, henters, hnew⟩
    · rw [List.mem_append, List.mem_singleton, not_or] at hkept
      exact .inr ⟨⟨before, x, between, hearlier, hlength, henters, hnew, hkept.1⟩,
        Ne.symm hkept.2⟩
  · rintro (⟨rfl, henters, hnew⟩ | ⟨⟨before, x, between, hearlier, hlength, henters, hnew, hkept⟩,
      hlast⟩)
    · exact ⟨h, e, [], rfl, rfl, henters, hnew, List.not_mem_nil⟩
    · refine ⟨before, x, between ++ [e], concat_eq_split_iff.mpr (.inr ⟨between, hearlier, rfl⟩),
        hlength, henters, hnew, ?_⟩
      rw [List.mem_append, List.mem_singleton, not_or]
      exact ⟨hkept, Ne.symm hlast⟩

/-! ## What the notions have to do with each other -/

theorem LatestWrite.live (hwrite : LatestWrite h a role k) : Live h a := by
  obtain ⟨before, behind, hsplit, hkept, -⟩ := hwrite
  exact ⟨before, _, behind, hsplit, Event.enters_written, hkept⟩

theorem EnteredAt.live (hentered : EnteredAt h a i) : Live h a := by
  obtain ⟨before, e, behind, hsplit, -, henters, -, hkept⟩ := hentered
  exact ⟨before, e, behind, hsplit, henters, hkept⟩

theorem EnteredAt.lt_length (hentered : EnteredAt h a i) : i < h.length := by
  obtain ⟨before, e, behind, rfl, rfl, -⟩ := hentered
  rw [List.length_append, List.length_cons]
  omega

/-- An account that is there has been entered by some event. -/
theorem Live.exists_enteredAt (hlive : Live h a) : ∃ i, EnteredAt h a i := by
  induction h using List.reverseRecOn with
  | nil => exact absurd hlive not_live_nil
  | append_singleton h e ih =>
    by_cases hbefore : Live h a
    · obtain ⟨i, hi⟩ := ih hbefore
      have hkept : e ≠ .removed a := by
        rcases live_concat_iff.mp hlive with henters | ⟨_, hkept⟩
        · exact Event.ne_removed_of_enters henters
        · exact hkept
      exact ⟨i, enteredAt_concat_iff.mpr (.inr ⟨hi, hkept⟩)⟩
    · have henters : e.Enters a := (live_concat_iff.mp hlive).resolve_right fun h ↦ hbefore h.1
      exact ⟨h.length, enteredAt_concat_iff.mpr (.inl ⟨rfl, henters, hbefore⟩)⟩

end KeyStore

end GrapheneSigner
