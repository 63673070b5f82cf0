import GrapheneSigner.Proofs.Signing.Pass
import GrapheneSigner.Proofs.Transaction.Built

/-!
# Signed transactions that a caller can come by

A caller builds a signed transaction, assigns to it, edits it and signs it.  As long as nothing is
put in the place of the members beyond the fields, there are none, so that all that is said about
signing holds of every such transaction.
-/

namespace GrapheneSigner

namespace SignedTransaction

/-- Signing brings no members beyond the fields. -/
theorem noSurplus_of_sign {σ : Type} {t : SignedTransaction} (lookup : Lookup σ) (config : Config)
    (chainId : Value) (s : σ) (h : t.frame.NoSurplus) :
    (t.sign lookup config chainId s).1.left.frame.NoSurplus := by
  have hpass :=
    (Transaction.passOutcome_signPass t.toTransaction lookup config chainId s).noSurplus h
  cases hresult : (t.sign lookup config chainId s).1.result with
  | error failure =>
    obtain ⟨hleft, _⟩ := sign_of_error hresult
    rw [hleft]
    exact hpass
  | ok texts =>
    obtain ⟨_, _, _, hleft, _⟩ := sign_of_ok hresult
    rw [hleft]
    exact hpass

/-- Signed transactions that come from arguments by assignments, unchecked changes, edits and
signing; nothing is put in the place of the members beyond the fields. -/
inductive Reachable : SignedTransaction → Prop
  | built {args es t} (h : ofArguments args es = .ok t) : Reachable t
  | assigned {t u a} (ht : Reachable t) (ha : ∀ v, a ≠ .part .surplus v)
      (h : t.assign a = .ok u) : Reachable u
  | put {t u a} (ht : Reachable t) (h : t.put a = .ok u) : Reachable u
  | edited {t u} (ht : Reachable t) (h : u.frame = t.frame) : Reachable u
  | signed {σ t} (ht : Reachable t) (lookup : Lookup σ) (config : Config) (chainId : Value)
      (s : σ) : Reachable (t.sign lookup config chainId s).1.left

theorem Reachable.noSurplus {t : SignedTransaction} (h : Reachable t) : t.frame.NoSurplus := by
  induction h with
  | built h => exact noSurplus_of_ofArguments h
  | assigned _ ha h ih => exact noSurplus_of_assign ha h ih
  | put _ h ih => exact noSurplus_of_put h ih
  | edited _ h ih =>
    rw [h]
    exact ih
  | signed _ lookup config chainId s ih => exact noSurplus_of_sign lookup config chainId s ih

end SignedTransaction

end GrapheneSigner
