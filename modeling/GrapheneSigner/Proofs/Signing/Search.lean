import Mathlib.Algebra.Group.Nat.Defs
import Mathlib.Order.Bounds.Defs
import GrapheneSigner.Proofs.Signing.Attempt
import GrapheneSigner.Proofs.Signing.Window

/-!
# Runs of the search

A run of the search rejects some attempts, each a second later than the one before, and then ends
in one of five ways.  The number of rejected attempts is what the run adds to the expiration, so
that the way in which a run ends says which expirations have canonical signatures.
-/

namespace GrapheneSigner

namespace Transaction

/-- How a search from `start` with at most `bound` attempts ends after `n` rejected ones: with
signatures, with the failure of the next attempt, with an expiration that has no time stamp or
cannot be assigned, or without attempts that are left. -/
inductive Ending (t : Transaction) (chain : Bytes) (keys : List KeyPair)
    (attempts start bound : Nat) : Nat → Except Failure (List Bytes) → Prop
  | signed {n signatures} (hn : n < bound)
      (h : t.attemptFrom chain keys start n = .ok (some signatures)) :
      Ending t chain keys attempts start bound n (.ok signatures)
  | failed {n failure} (hn : n < bound) (h : t.attemptFrom chain keys start n = .error failure) :
      Ending t chain keys attempts start bound n (.error failure)
  | unstamped {n cause} (hpos : 0 < n) (hn : n ≤ bound)
      (h : TimePoint.stamp ⟨start + n⟩ = .error (.foreign cause)) :
      Ending t chain keys attempts start bound n (.error (.foreign cause))
  | unassigned {cause} (hadmits : t.frame.admits (lit "expiration") = false) :
      Ending t chain keys attempts start bound 0 (.error (.foreign cause))
  | exhausted : Ending t chain keys attempts start bound bound (.error (exhausted attempts))

/-- A run of a search on `t` from `start` with at most `bound` attempts, of which `n` were
rejected. -/
structure Run (t : Transaction) (chain : Bytes) (keys : List KeyPair)
    (attempts start bound n : Nat) (left : Transaction) (result : Except Failure (List Bytes)) :
    Prop where
  rejected : ∀ i < n, t.attemptFrom chain keys start i = .ok none
  body : SameBody t left
  noSurplus : left.frame.NoSurplus
  expiration : left.expiration = ⟨start + n⟩
  ending : Ending t chain keys attempts start bound n result

variable {chain : Bytes} {keys : List KeyPair} {attempts : Nat}

theorem Ending.le_bound {t : Transaction} {start bound n : Nat}
    {result : Except Failure (List Bytes)}
    (h : Ending t chain keys attempts start bound n result) : n ≤ bound := by
  cases h <;> omega

/-- Why no more attempts are rejected. -/
theorem Ending.stops {t : Transaction} {start bound n : Nat}
    {result : Except Failure (List Bytes)}
    (h : Ending t chain keys attempts start bound n result) :
    n = bound ∨ t.attemptFrom chain keys start n ≠ .ok none ∨
      (∃ cause, result = .error (.foreign cause) ∧
        TimePoint.stamp ⟨start + n⟩ = .error (.foreign cause)) ∨
      (n = 0 ∧ t.frame.admits (lit "expiration") = false) := by
  cases h with
  | signed hn h => exact .inr (.inl (by rw [h]; simp))
  | failed hn h => exact .inr (.inl (by rw [h]; simp))
  | unstamped hpos hn h => exact .inr (.inr (.inl ⟨_, rfl, h⟩))
  | unassigned hadmits => exact .inr (.inr (.inr ⟨rfl, hadmits⟩))
  | exhausted => exact .inl rfl

/-- How a search ends depends on the body, if the expiration can be assigned. -/
theorem Ending.of_sameBody {t u : Transaction} {start bound n : Nat}
    {result : Except Failure (List Bytes)} (hbody : SameBody t u)
    (hadmits : u.frame.admits (lit "expiration") = true)
    (h : Ending u chain keys attempts start bound n result) :
    Ending t chain keys attempts start bound n result := by
  cases h with
  | signed hn h => exact .signed hn (by rw [← hbody.attemptFrom_eq, h])
  | failed hn h => exact .failed hn (by rw [← hbody.attemptFrom_eq, h])
  | unstamped hpos hn h => exact .unstamped hpos hn h
  | unassigned hrefused =>
    rw [hadmits] at hrefused
    cases hrefused
  | exhausted => exact .exhausted

theorem Run.of_sameBody {t u left : Transaction} {start bound n : Nat}
    {result : Except Failure (List Bytes)} (hbody : SameBody t u)
    (hadmits : u.frame.admits (lit "expiration") = true)
    (h : Run u chain keys attempts start bound n left result) :
    Run t chain keys attempts start bound n left result where
  rejected := by
    intro i hi
    rw [← hbody.attemptFrom_eq]
    exact h.rejected i hi
  body := hbody.trans h.body
  noSurplus := h.noSurplus
  expiration := h.expiration
  ending := h.ending.of_sameBody hbody hadmits

/-- The ending of a search that starts one second later, behind one more rejected attempt. -/
theorem Ending.later {t : Transaction} {start bound n : Nat}
    {result : Except Failure (List Bytes)} (hadmits : t.frame.admits (lit "expiration") = true)
    (h : Ending t chain keys attempts (start + 1) bound n result) :
    Ending t chain keys attempts start (bound + 1) (n + 1) result := by
  cases h with
  | signed hn h => exact .signed (by omega) (by rw [← attemptFrom_succ, h])
  | failed hn h => exact .failed (by omega) (by rw [← attemptFrom_succ, h])
  | unstamped hpos hn h =>
    apply Ending.unstamped (by omega) (by omega)
    rw [show start + (n + 1) = start + 1 + n by omega]
    exact h
  | unassigned hrefused =>
    rw [hadmits] at hrefused
    cases hrefused
  | exhausted => exact .exhausted

/-- A rejected attempt in front of a run. -/
theorem Run.later {t left : Transaction} {start bound n : Nat}
    {result : Except Failure (List Bytes)} (hadmits : t.frame.admits (lit "expiration") = true)
    (hrejected : t.attemptFrom chain keys start 0 = .ok none)
    (h : Run t chain keys attempts (start + 1) bound n left result) :
    Run t chain keys attempts start (bound + 1) (n + 1) left result where
  rejected := by
    intro i hi
    cases i with
    | zero => exact hrejected
    | succ i =>
      rw [← attemptFrom_succ]
      exact h.rejected i (by omega)
  body := h.body
  noSurplus := h.noSurplus
  expiration := by rw [h.expiration, show start + (n + 1) = start + 1 + n by omega]
  ending := h.ending.later hadmits

theorem run_zero {t : Transaction} {bound : Nat} {result : Except Failure (List Bytes)}
    (hsurplus : t.frame.NoSurplus)
    (h : Ending t chain keys attempts t.expiration.seconds bound 0 result) :
    Run t chain keys attempts t.expiration.seconds bound 0 t result where
  rejected := by
    intro i hi
    exact absurd hi (Nat.not_lt_zero i)
  body := .refl t
  noSurplus := hsurplus
  expiration := rfl
  ending := h

/-- An attempt that gives signatures ends the search. -/
theorem search_of_signed {t : Transaction} {remaining : Nat} {signatures : List Bytes}
    (hattempt : t.attempt chain keys = .ok (some signatures)) :
    search chain keys attempts t (remaining + 1) = (t, .ok signatures) := by
  unfold search
  rw [hattempt]

/-- After an attempt that is rejected, the search goes on one second later. -/
theorem search_of_rejected {t later : Transaction} {remaining : Nat} {e : TimePoint} {stamp : Text}
    (hattempt : t.attempt chain keys = .ok none) (he : t.expiration.addSeconds 1 = .ok e)
    (hassign : t.expireAt e = .ok later) (hstamp : e.stamp = .ok stamp) :
    search chain keys attempts t (remaining + 1) = search chain keys attempts later remaining := by
  rw [search.eq_def]
  simp only [hattempt, he, hassign, hstamp]

/-- Every search is a run. -/
theorem exists_run_search (chain : Bytes) (keys : List KeyPair) (attempts remaining : Nat)
    {t : Transaction} (hsurplus : t.frame.NoSurplus) :
    ∃ n, Run t chain keys attempts t.expiration.seconds remaining n
      (search chain keys attempts t remaining).1 (search chain keys attempts t remaining).2 := by
  induction remaining generalizing t with
  | zero => exact ⟨0, run_zero hsurplus .exhausted⟩
  | succ remaining ih =>
    unfold search
    cases hattempt : t.attempt chain keys with
    | error failure => exact ⟨0, run_zero hsurplus (.failed (by omega) hattempt)⟩
    | ok found =>
      cases found with
      | some signatures => exact ⟨0, run_zero hsurplus (.signed (by omega) hattempt)⟩
      | none =>
        rw [TimePoint.addSeconds_one]
        dsimp only
        cases hassign : t.expireAt ⟨t.expiration.seconds + 1⟩ with
        | error failure =>
          obtain ⟨hadmits, cause, rfl⟩ := foreign_of_expireAt hsurplus hassign
          exact ⟨0, run_zero hsurplus (.unassigned hadmits)⟩
        | ok later =>
          have hexpires := expiresAt_of_expireAt hsurplus hassign
          cases hstamp : TimePoint.stamp ⟨t.expiration.seconds + 1⟩ with
          | error failure =>
            obtain ⟨cause, rfl⟩ := TimePoint.stamp_error hstamp
            refine ⟨1, ⟨?_, hexpires.body, hexpires.noSurplus, hexpires.expiration,
              .unstamped (by omega) (by omega) hstamp⟩⟩
            intro i hi
            rw [Nat.lt_one_iff.mp hi]
            exact hattempt
          | ok stamp =>
            obtain ⟨n, hrun⟩ := ih hexpires.noSurplus
            rw [hexpires.expiration] at hrun
            exact ⟨n + 1, (hrun.of_sameBody hexpires.body hexpires.admits).later
              hexpires.admitted hattempt⟩

/-! ## What the end of a run says -/

theorem Run.not_allCanonical {t left : Transaction} {start bound n : Nat}
    {result : Except Failure (List Bytes)}
    (h : Run t chain keys attempts start bound n left result) :
    ∀ j < n, ¬ t.AllCanonical chain keys ⟨start + j⟩ := by
  intro j hj
  exact not_allCanonical_of_attemptFrom (h.rejected j hj)

/-- A run that gives signatures ends with the attempt that gives them. -/
theorem Run.signed {t left : Transaction} {start bound n : Nat} {signatures : List Bytes}
    (h : Run t chain keys attempts start bound n left (.ok signatures)) :
    n < bound ∧ t.attemptFrom chain keys start n = .ok (some signatures) := by
  cases h.ending with
  | signed hn hfound => exact ⟨hn, hfound⟩

/-- A run that gives signatures ends at the first expiration with which every key has a canonical
signature. -/
theorem Run.isLeast {t left : Transaction} {start bound n : Nat} {signatures : List Bytes}
    (h : Run t chain keys attempts start bound n left (.ok signatures)) :
    n < bound ∧ IsLeast {j | t.AllCanonical chain keys ⟨start + j⟩} n := by
  refine ⟨h.signed.1, allCanonical_of_attemptFrom h.signed.2, ?_⟩
  intro j hj
  apply Nat.le_of_not_lt
  intro hlt
  exact h.not_allCanonical j hlt hj

/-- A run that says that the attempts are exhausted has made them all, unless an operation fails in
these words before the first attempt has a digest. -/
theorem Run.eq_bound_of_exhausted {t left : Transaction} {start bound n : Nat}
    (h : Run t chain keys attempts start bound n left (.error (exhausted attempts))) :
    n = bound ∨ (Raises t.operations (exhausted attempts) ∧
      (t.expiring ⟨start⟩).digest chain = .error (exhausted attempts)) := by
  cases h.ending with
  | exhausted => exact .inl rfl
  | failed _ hfailure =>
    obtain ⟨hraises, hdigest⟩ := raises_of_exhausted hfailure
    refine .inr ⟨hraises, ?_⟩
    cases n with
    | zero => exact hdigest
    | succ n =>
      -- the first attempt had a digest, and only the expiration can take it away
      obtain ⟨first, hfirst, _⟩ := exists_of_bind_eq_ok (h.rejected 0 (by omega))
      obtain ⟨_, hmisfit⟩ := digest_expiring_error hfirst hdigest
      have hrefusal : (exhausted attempts).IsRefusal := by
        rw [hmisfit]
        exact isRefusal_expirationMisfit _
      cases hrefusal

/-- A run whose first attempt has a digest meets an encoding fault only at an expiration that has no
four bytes, and this is the first one of them. -/
theorem Run.eq_of_encoding {t left : Transaction} {start bound n : Nat} {fault : Fault}
    {digest : Bytes} (h : Run t chain keys attempts start bound n left (.error (.own fault)))
    (hkind : fault.report.kind = .encoding)
    (hdigest : (t.expiring ⟨start⟩).digest chain = .ok digest) :
    0 < n ∧ n < bound ∧ start + n = 2 ^ 32 ∧ .own fault = expirationMisfit ⟨start + n⟩ := by
  have hrange : byteRange 4 = 2 ^ 32 := rfl
  cases h.ending with
  | exhausted => cases hkind
  | failed hn hfailure =>
    obtain ⟨hlarge, hmisfit⟩ := expirationMisfit_of_attemptFrom hdigest hfailure hkind
    have hfits : start < byteRange 4 := lt_of_digest_expiring hdigest
    have hpos : 0 < n := by
      apply Nat.pos_of_ne_zero
      rintro rfl
      omega
    -- the attempt before had a digest
    obtain ⟨before, hbefore, _⟩ := exists_of_bind_eq_ok (h.rejected (n - 1) (by omega))
    have hlast : start + (n - 1) < byteRange 4 := lt_of_digest_expiring hbefore
    exact ⟨hpos, hn, by omega, hmisfit⟩

/-- Whatever waits beyond the fields, the signatures that a search gives are those of the
transaction that it leaves. -/
theorem attempt_of_search {t : Transaction} {remaining : Nat} {signatures : List Bytes}
    (h : (search chain keys attempts t remaining).2 = .ok signatures) :
    (search chain keys attempts t remaining).1.attempt chain keys = .ok (some signatures) := by
  induction remaining generalizing t with
  | zero => cases h
  | succ remaining ih =>
    unfold search at h ⊢
    cases hattempt : t.attempt chain keys with
    | error failure =>
      rw [hattempt] at h
      cases h
    | ok found =>
      cases found with
      | some found =>
        rw [hattempt] at h
        cases h
        exact hattempt
      | none =>
        rw [TimePoint.addSeconds_one] at h ⊢
        simp only [hattempt] at h ⊢
        cases hassign : t.expireAt ⟨t.expiration.seconds + 1⟩ with
        | error failure =>
          rw [hassign] at h
          cases h
        | ok later =>
          cases hstamp : TimePoint.stamp ⟨t.expiration.seconds + 1⟩ with
          | error failure =>
            rw [hassign, hstamp] at h
            cases h
          | ok stamp =>
            simp only [hassign, hstamp] at h
            exact ih h

end Transaction

end GrapheneSigner
