import Mathlib.Data.List.TakeWhile
import GrapheneSigner.Text.Blank

/-!
# Texts without blanks around them

Trimming takes the members of a class off the two ends of a text.  What remains begins with no
member of the class, it gives the text again with what was taken off, and a text without members of
the class is what remains when some are put around it.
-/

namespace GrapheneSigner

namespace Text

variable {blank : CodePoint → Bool} {c : CodePoint}

theorem trimEnd_append {back : Text} (h : ∀ c ∈ back, blank c = true) (t : Text) :
    trimEnd blank (t ++ back) = trimEnd blank t := by
  unfold trimEnd
  rw [List.reverse_append, List.dropWhile_append_of_pos]
  intro c hc
  exact h c (List.mem_reverse.mp hc)

theorem trimEnd_eq_self {t : Text} (h : ∀ c, t.getLast? = some c → blank c = false) :
    trimEnd blank t = t := by
  unfold trimEnd
  rw [← List.head?_reverse] at h
  cases hreverse : t.reverse with
  | nil => rw [List.reverse_eq_nil_iff.mp hreverse]; rfl
  | cons c rest =>
    have hc : blank c = false := h c (by rw [hreverse, List.head?_cons])
    rw [List.dropWhile_cons_of_neg (by simp [hc]), ← hreverse, List.reverse_reverse]

theorem trim_eq_self {t : Text} (hhead : ∀ c, t.head? = some c → blank c = false)
    (hlast : ∀ c, t.getLast? = some c → blank c = false) : trim blank t = t := by
  unfold trim
  have hdrop : t.dropWhile blank = t := by
    cases t with
    | nil => rfl
    | cons c rest => exact List.dropWhile_cons_of_neg (by simp [hhead c rfl])
  rw [hdrop]
  exact trimEnd_eq_self hlast

/-- What is taken off the end of a text belongs to the class. -/
theorem exists_eq_trimEnd_append (blank : CodePoint → Bool) (t : Text) :
    ∃ back, t = trimEnd blank t ++ back ∧ ∀ c ∈ back, blank c = true := by
  refine ⟨(t.reverse.takeWhile blank).reverse, ?_, ?_⟩
  · unfold trimEnd
    rw [← List.reverse_append, List.takeWhile_append_dropWhile, List.reverse_reverse]
  · intro c hc
    exact List.all_eq_true.mp List.all_takeWhile c (List.mem_reverse.mp hc)

/-- What is taken off a text belongs to the class. -/
theorem exists_eq_append_trim (blank : CodePoint → Bool) (t : Text) :
    ∃ front back, t = front ++ trim blank t ++ back ∧ (∀ c ∈ front, blank c = true) ∧
      ∀ c ∈ back, blank c = true := by
  obtain ⟨back, hback, hblank⟩ := exists_eq_trimEnd_append blank (t.dropWhile blank)
  refine ⟨t.takeWhile blank, back, ?_, List.all_eq_true.mp List.all_takeWhile, hblank⟩
  calc t = t.takeWhile blank ++ t.dropWhile blank := List.takeWhile_append_dropWhile.symm
    _ = t.takeWhile blank ++ (trim blank t ++ back) := by rw [trim, ← hback]
    _ = t.takeWhile blank ++ trim blank t ++ back := (List.append_assoc _ _ _).symm

/-- A text without members of the class remains of itself with some around it. -/
theorem trim_append {front t back : Text} (hfront : ∀ c ∈ front, blank c = true)
    (ht : ∀ c ∈ t, blank c = false) (hback : ∀ c ∈ back, blank c = true) :
    trim blank (front ++ t ++ back) = t := by
  unfold trim
  rw [List.append_assoc, List.dropWhile_append_of_pos hfront]
  cases t with
  | nil =>
    rw [List.nil_append, List.dropWhile_eq_nil_iff.mpr hback]
    rfl
  | cons c rest =>
    have hc : blank c = false := ht c List.mem_cons_self
    rw [List.cons_append, List.dropWhile_cons_of_neg (by simp [hc]), ← List.cons_append,
      trimEnd_append hback]
    exact trimEnd_eq_self fun c hc ↦ ht c (List.mem_of_getLast? hc)

/-- What remains begins with no member of the class. -/
theorem head?_trim {t : Text} (h : (trim blank t).head? = some c) : blank c = false := by
  obtain ⟨back, hback, _⟩ := exists_eq_trimEnd_append blank (t.dropWhile blank)
  have hhead : (t.dropWhile blank).head? = some c := by
    rw [hback, List.head?_append, ← trim, h, Option.some_or]
  have hnot := List.head?_dropWhile_not blank t
  rw [hhead] at hnot
  exact hnot

end Text

end GrapheneSigner
