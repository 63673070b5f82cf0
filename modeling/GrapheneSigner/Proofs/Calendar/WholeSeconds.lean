import Mathlib.Algebra.Group.Int.Defs
import GrapheneSigner.Intake.Model
import GrapheneSigner.Proofs.Decimal.FlooredQuotient

/-!
# Whole seconds of a number of microseconds

The division in double precision does no harm: whole seconds stay what they are below the bound of
mantissas, and within the seconds of 32 bits a number of microseconds is rounded down.  Whole
seconds that are not negative make a time point.
-/

namespace GrapheneSigner

theorem wholeSeconds_eq (microseconds : Int) {seconds : Nat}
    (h : ∀ negative, Binary64.truncate? (Binary64.ofRatio negative microseconds.natAbs 1000000)
      = some (if negative then -(seconds : Int) else seconds)) :
    wholeSeconds microseconds = if microseconds < 0 then -(seconds : Int) else seconds := by
  unfold wholeSeconds
  rw [h, Option.getD_some]
  simp only [decide_eq_true_iff]

theorem wholeSeconds_mul {k : Int} (h : k.natAbs < Binary64.mantissaBound) :
    wholeSeconds (k * 1000000) = k := by
  have habs : (k * 1000000).natAbs = k.natAbs * 1000000 := Int.natAbs_mul k 1000000
  have hround := wholeSeconds_eq (k * 1000000) fun negative ↦ by
    rw [habs]
    exact Binary64.truncate?_ofRatio_whole negative h (by decide)
  rw [hround]
  split <;> omega

/-- Below 2 to the power 32 a double is off by less than a microsecond, so that a second that is not
full is not counted. -/
theorem wholeSeconds_of_lt {microseconds : Int} (hlow : 0 ≤ microseconds)
    (hhigh : microseconds < 2 ^ 32 * 10 ^ 6) :
    wholeSeconds microseconds = microseconds / 10 ^ 6 := by
  have hbound : microseconds.natAbs < 2 ^ 32 * 1000000 := by omega
  have hround := wholeSeconds_eq microseconds fun negative ↦
    Binary64.truncate?_ofRatio_of_lt negative (by decide) (by decide) hbound (by decide)
  rw [hround, if_neg (by omega)]
  omega

namespace TimePoint

theorem ofInt_eq_ok_iff {i : Int} {e : TimePoint} : ofInt i = .ok e ↔ (e.seconds : Int) = i := by
  have hread : ofInt i = if 0 ≤ i then .ok ⟨i.toNat⟩
      else .error (.foreign (.invalid [⟨.tooSmall, [.field (lit "seconds")]⟩])) := by
    unfold ofInt ofSeconds secondsOf Reading.nat Reading.atLeast
    by_cases h : 0 ≤ i
    · simp only [Reading.int, Reading.andThen, if_pos h]
      rfl
    · simp only [Reading.int, Reading.andThen, if_neg h]
      rfl
  obtain ⟨seconds⟩ := e
  rw [hread]
  split
  · rw [Except.ok.injEq, TimePoint.mk.injEq]
    dsimp only
    omega
  · constructor
    · intro h
      cases h
    · intro h
      dsimp only at h
      omega

end TimePoint

end GrapheneSigner
