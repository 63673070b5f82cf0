/-!
# Ledgers

A ledger maps keys to values and keeps the order in which its keys were first entered.  Entering a
key again replaces its value in its place; a key that was erased and is entered again goes to the
end.
-/

namespace GrapheneSigner

/-- Pairs of keys and values, in the order in which the keys were entered. -/
abbrev Ledger (κ β : Type) := List (κ × β)

namespace Ledger

variable {κ β : Type} [DecidableEq κ]

def get? (key : κ) : Ledger κ β → Option β
  | [] => none
  | (k, v) :: rest => if k = key then some v else get? key rest

def put (key : κ) (value : β) : Ledger κ β → Ledger κ β
  | [] => [(key, value)]
  | (k, v) :: rest => if k = key then (k, value) :: rest else (k, v) :: put key value rest

def erase (key : κ) : Ledger κ β → Ledger κ β
  | [] => []
  | (k, v) :: rest => if k = key then rest else (k, v) :: erase key rest

def keys (l : Ledger κ β) : List κ := l.map (·.1)

theorem get?_put (key other : κ) (value : β) (l : Ledger κ β) :
    get? other (put key value l) = if key = other then some value else get? other l := by
  induction l with
  | nil => simp [put, get?]
  | cons e rest ih =>
    obtain ⟨k, v⟩ := e
    by_cases hk : k = key
    · subst hk
      by_cases ho : k = other <;> simp [put, get?, ho]
    · by_cases ho : k = other
      · subst ho
        simp [put, get?, hk, Ne.symm hk]
      · simp [put, get?, hk, ho, ih]

theorem keys_put (key : κ) (value : β) (l : Ledger κ β) :
    keys (put key value l) = if key ∈ keys l then keys l else keys l ++ [key] := by
  induction l with
  | nil => simp [put, keys]
  | cons e rest ih =>
    obtain ⟨k, v⟩ := e
    by_cases hk : k = key
    · simp [put, keys, hk]
    · simp only [keys] at ih
      by_cases hm : key ∈ rest.map (·.1)
      · simp [put, keys, hk, ih, hm]
      · simp [put, keys, hk, Ne.symm hk, ih, hm]

end Ledger

end GrapheneSigner
