import GrapheneSigner.Text.Basic

/-!
# Pieces of texts

A text is cut at the occurrences of a code point.  Every other code point of the text is in one of
the pieces, and a piece without the separator is cut off as a whole.  So the pieces are the only
texts without the separator that give the text when they are joined.  Cutting and joining are the
operations of lists with these names, whose laws are taken over.
-/

namespace GrapheneSigner

namespace Text

variable {sep c : CodePoint} {s t : Text}

/-- A text is cut like any list. -/
theorem splitOn_eq_splitOn (sep : CodePoint) (t : Text) : splitOn sep t = List.splitOn sep t := by
  induction t with
  | nil => rw [splitOn, List.splitOn_nil]
  | cons c rest ih =>
    obtain ⟨piece, pieces, hpieces⟩ := List.exists_cons_of_ne_nil (List.splitOn_ne_nil sep rest)
    rw [splitOn, List.splitOn_cons_eq_if_modifyHead, ih, hpieces]
    simp only [beq_iff_eq, List.modifyHead_cons]

/-- Texts are joined like any lists. -/
theorem join_eq_intercalate (sep : Text) (pieces : List Text) :
    join sep pieces = sep.intercalate pieces := by
  induction pieces with
  | nil => rw [join, List.intercalate_nil]
  | cons piece rest ih =>
    cases rest with
    | nil => rw [join, List.intercalate_singleton]
    | cons next rest => rw [join, ih, List.intercalate_cons_cons]

theorem splitOn_ne_nil (sep : CodePoint) (t : Text) : splitOn sep t ≠ [] := by
  rw [splitOn_eq_splitOn]
  exact List.splitOn_ne_nil sep t

/-- A code point that does not separate is put in front of the first piece. -/
theorem exists_splitOn_cons (h : c ≠ sep) (t : Text) :
    ∃ piece pieces, splitOn sep t = piece :: pieces ∧
      splitOn sep (c :: t) = (c :: piece) :: pieces := by
  obtain ⟨piece, pieces, hpieces⟩ := List.exists_cons_of_ne_nil (splitOn_ne_nil sep t)
  refine ⟨piece, pieces, hpieces, ?_⟩
  rw [splitOn, if_neg h, hpieces]

/-- In the pieces are the code points of the text that do not separate. -/
theorem exists_mem_piece_iff :
    (∃ piece, piece ∈ splitOn sep t ∧ c ∈ piece) ↔ c ∈ t ∧ c ≠ sep := by
  induction t with
  | nil => simp [splitOn]
  | cons first rest ih =>
    by_cases hfirst : first = sep
    · have hnot : ¬ (c = first ∧ c ≠ sep) := fun h ↦ h.2 (h.1.trans hfirst)
      rw [splitOn, if_pos hfirst]
      simp only [List.mem_cons, exists_eq_or_imp, List.not_mem_nil, false_or]
      rw [ih, or_and_right, or_iff_right hnot]
    · obtain ⟨piece, pieces, hpieces, hcons⟩ := exists_splitOn_cons hfirst rest
      have hne : c = first → c ≠ sep := fun h ↦ h ▸ hfirst
      rw [hpieces] at ih
      rw [hcons]
      simp only [List.mem_cons, exists_eq_or_imp] at ih ⊢
      rw [or_assoc, ih, or_and_right, and_iff_left_of_imp hne]

theorem exists_piece_of_mem (h : c ∈ t) (hsep : c ≠ sep) : ∃ piece ∈ splitOn sep t, c ∈ piece :=
  exists_mem_piece_iff.mpr ⟨h, hsep⟩

theorem mem_of_mem_piece {piece : Text} (hpiece : piece ∈ splitOn sep t) (h : c ∈ piece) : c ∈ t :=
  (exists_mem_piece_iff.mp ⟨piece, hpiece, h⟩).1

theorem not_mem_of_mem_splitOn {piece : Text} (h : piece ∈ splitOn sep t) : sep ∉ piece :=
  fun hmem ↦ (exists_mem_piece_iff.mp ⟨piece, h, hmem⟩).2 rfl

theorem splitOn_of_not_mem (h : sep ∉ t) : splitOn sep t = [t] := by
  rw [splitOn_eq_splitOn]
  exact List.splitOn_eq_singleton h

theorem splitOn_append (h : sep ∉ s) (t : Text) :
    splitOn sep (s ++ sep :: t) = s :: splitOn sep t := by
  rw [splitOn_eq_splitOn, splitOn_eq_splitOn]
  exact List.splitOn_append_cons_self_of_not_mem h t

/-! ## Pieces that are joined -/

theorem join_cons (sep piece : Text) {pieces : List Text} (h : pieces ≠ []) :
    join sep (piece :: pieces) = piece ++ sep ++ join sep pieces := by
  rw [join_eq_intercalate, join_eq_intercalate, List.intercalate_cons_of_ne_nil h]

theorem join_cons_cons (sep : Text) (c : CodePoint) (piece : Text) (pieces : List Text) :
    join sep ((c :: piece) :: pieces) = c :: join sep (piece :: pieces) := by
  rw [join_eq_intercalate, join_eq_intercalate, List.intercalate_cons_cons_left]

/-- The pieces give the text when they are joined. -/
theorem join_splitOn (sep : CodePoint) (t : Text) : join [sep] (splitOn sep t) = t := by
  rw [splitOn_eq_splitOn, join_eq_intercalate, List.intercalate_splitOn]

theorem splitOn_join {pieces : List Text} (hne : pieces ≠ []) (h : ∀ piece ∈ pieces, sep ∉ piece) :
    splitOn sep (join [sep] pieces) = pieces := by
  rw [splitOn_eq_splitOn, join_eq_intercalate, List.splitOn_intercalate sep h hne]

/-- The pieces are the texts without the separator that give the text when they are joined. -/
theorem splitOn_eq_iff {pieces : List Text} : splitOn sep t = pieces ↔
    pieces ≠ [] ∧ (∀ piece ∈ pieces, sep ∉ piece) ∧ t = join [sep] pieces := by
  constructor
  · intro h
    rw [← h]
    exact ⟨splitOn_ne_nil sep t, fun _ ↦ not_mem_of_mem_splitOn, (join_splitOn sep t).symm⟩
  · intro h
    rw [h.2.2, splitOn_join h.1 h.2.1]

theorem join_concat {pieces : List Text} (h : pieces ≠ []) (sep last : Text) :
    join sep (pieces ++ [last]) = join sep pieces ++ sep ++ last := by
  induction pieces with
  | nil => exact absurd rfl h
  | cons piece rest ih =>
    by_cases hrest : rest = []
    · rw [hrest]
      rfl
    · rw [List.cons_append, join_cons _ _ (List.append_ne_nil_of_left_ne_nil hrest _), ih hrest,
        join_cons _ _ hrest]
      simp only [List.append_assoc]

/-- What is put behind the last piece stands behind the text. -/
theorem join_append_last (sep : Text) (front : List Text) (last t : Text) :
    join sep (front ++ [last ++ t]) = join sep (front ++ [last]) ++ t := by
  by_cases hfront : front = []
  · rw [hfront]
    rfl
  · rw [join_concat hfront, join_concat hfront, List.append_assoc _ last t]

/-- A text without the separator is put behind the last piece. -/
theorem exists_splitOn_append (h : sep ∉ t) (s : Text) : ∃ front last,
    splitOn sep s = front ++ [last] ∧ splitOn sep (s ++ t) = front ++ [last ++ t] := by
  obtain hnil | ⟨front, last, hlast⟩ := List.eq_nil_or_concat (splitOn sep s)
  · exact absurd hnil (splitOn_ne_nil sep s)
  rw [List.concat_eq_append] at hlast
  have hpieces : ∀ piece ∈ front ++ [last], sep ∉ piece :=
    hlast ▸ fun _ ↦ not_mem_of_mem_splitOn
  refine ⟨front, last, hlast, ?_⟩
  rw [← join_splitOn sep s, hlast, ← join_append_last]
  apply splitOn_join (by simp)
  intro piece hpiece
  rcases List.mem_append.mp hpiece with hmem | hmem
  · exact hpieces piece (List.mem_append_left _ hmem)
  · rw [List.mem_singleton.mp hmem, List.mem_append, not_or]
    exact ⟨hpieces last (by simp), h⟩

/-- There are two pieces if the separator occurs once. -/
theorem splitOn_eq_pair_iff {u : Text} :
    splitOn sep t = [s, u] ↔ t = s ++ sep :: u ∧ sep ∉ s ∧ sep ∉ u := by
  rw [splitOn_eq_iff]
  simp only [ne_eq, reduceCtorEq, not_false_eq_true, true_and, List.forall_mem_cons,
    List.not_mem_nil, false_implies, implies_true, and_true]
  rw [and_comm]
  simp [join]

/-! ## The first separator -/

theorem cutAt_append (h : sep ∉ s) (t : Text) : cutAt sep (s ++ sep :: t) = (s, t) := by
  induction s with
  | nil => rw [List.nil_append, cutAt, if_pos rfl]
  | cons first rest ih =>
    rw [List.mem_cons, not_or] at h
    rw [List.cons_append, cutAt, if_neg (Ne.symm h.1), ih h.2]

theorem cutAt_of_not_mem (h : sep ∉ t) : cutAt sep t = (t, []) := by
  induction t with
  | nil => rfl
  | cons first rest ih =>
    rw [List.mem_cons, not_or] at h
    rw [cutAt, if_neg (Ne.symm h.1), ih h.2]

end Text

end GrapheneSigner
