import Mathlib.Data.List.Nodup
import GrapheneSigner.Collection.Ledger

/-!
# The keys of ledgers

A ledger whose keys are without duplicates has a value for exactly its keys.  Erasing a key takes it
out of the keys and leaves the values of all others.
-/

namespace GrapheneSigner

namespace Ledger

variable {κ β : Type} [DecidableEq κ]

theorem isSome_get?_iff (key : κ) (l : Ledger κ β) : (l.get? key).isSome = true ↔ key ∈ l.keys := by
  induction l with
  | nil => exact iff_of_false nofun nofun
  | cons e rest ih =>
    obtain ⟨k, v⟩ := e
    by_cases hk : k = key
    · simp [get?, keys, hk]
    · simp only [keys] at ih
      simp [get?, keys, hk, Ne.symm hk, ih]

theorem get?_eq_none_iff (key : κ) (l : Ledger κ β) : l.get? key = none ↔ key ∉ l.keys := by
  rw [← isSome_get?_iff, Option.not_isSome_iff_eq_none]

theorem keys_erase (key : κ) (l : Ledger κ β) : (l.erase key).keys = l.keys.erase key := by
  induction l with
  | nil => rfl
  | cons e rest ih =>
    obtain ⟨k, v⟩ := e
    simp only [keys] at ih
    by_cases hk : k = key
    · simp [erase, keys, hk]
    · simp [erase, keys, hk, ih]

theorem erase_of_not_mem {key : κ} {l : Ledger κ β} (h : key ∉ l.keys) : l.erase key = l := by
  induction l with
  | nil => rfl
  | cons e rest ih =>
    obtain ⟨k, v⟩ := e
    obtain ⟨hk, hrest⟩ := not_or.mp (List.mem_cons.not.mp h)
    rw [erase, if_neg (Ne.symm hk), ih hrest]

theorem get?_erase_of_ne {key other : κ} (h : key ≠ other) (l : Ledger κ β) :
    (l.erase key).get? other = l.get? other := by
  induction l with
  | nil => rfl
  | cons e rest ih =>
    obtain ⟨k, v⟩ := e
    by_cases hk : k = key
    · subst hk
      simp [erase, get?, h]
    · by_cases ho : k = other
      · subst ho
        simp [erase, get?, hk]
      · simp [erase, get?, hk, ho, ih]

theorem get?_erase_self {key : κ} {l : Ledger κ β} (h : l.keys.Nodup) :
    (l.erase key).get? key = none := by
  rw [get?_eq_none_iff, keys_erase]
  exact h.not_mem_erase

theorem nodup_keys_put {key : κ} {value : β} {l : Ledger κ β} (h : l.keys.Nodup) :
    (l.put key value).keys.Nodup := by
  rw [keys_put]
  split
  · exact h
  · rename_i hkey
    exact List.concat_eq_append ▸ h.concat hkey

theorem nodup_keys_erase {key : κ} {l : Ledger κ β} (h : l.keys.Nodup) :
    (l.erase key).keys.Nodup := by
  rw [keys_erase]
  exact h.erase key

/-- Entering a value changes nothing exactly if the key has this value already. -/
theorem put_eq_self_iff {key : κ} {value : β} {l : Ledger κ β} :
    l.put key value = l ↔ l.get? key = some value := by
  constructor
  · intro hput
    rw [← hput, get?_put, if_pos rfl]
  · intro hget
    induction l with
    | nil => cases hget
    | cons e rest ih =>
      obtain ⟨k, v⟩ := e
      by_cases hk : k = key
      · rw [get?, if_pos hk, Option.some_inj] at hget
        rw [put, if_pos hk, hget]
      · rw [get?, if_neg hk] at hget
        rw [put, if_neg hk, ih hget]

end Ledger

end GrapheneSigner
