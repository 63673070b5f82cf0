import GrapheneSigner.Model.AccountName
import GrapheneSigner.Proofs.Text.Pieces
import GrapheneSigner.Text.Utf8

/-!
# Account names are ASCII

Everything that may stand in an account name is below U+0080: the characters of a segment, the line
feed that is let pass at the end of one, and the points in between.  So account names have bytes.
-/

namespace GrapheneSigner

namespace AccountName

/-- Every code point of the text is below U+0080. -/
def IsAscii (t : Text) : Prop := ∀ c ∈ t, c.val < 0x80

theorem isAscii_cons {c : CodePoint} {t : Text} : IsAscii (c :: t) ↔ c.val < 0x80 ∧ IsAscii t :=
  List.forall_mem_cons

theorem val_lt_of_isLetter {c : CodePoint} (h : isLetter c = true) : c.val < 0x80 := by
  simp only [isLetter, Bool.and_eq_true, decide_eq_true_eq] at h
  omega

theorem val_lt_of_isFinal {c : CodePoint} (h : isFinal c = true) : c.val < 0x80 := by
  simp only [isFinal, isLetter, isDigit, Bool.or_eq_true, Bool.and_eq_true,
    decide_eq_true_eq] at h
  omega

theorem val_lt_of_isInner {c : CodePoint} (h : isInner c = true) : c.val < 0x80 := by
  simp only [isInner, isLetter, isDigit, Bool.or_eq_true, Bool.and_eq_true, decide_eq_true_eq,
    beq_iff_eq] at h
  omega

theorem isAscii_of_isTail {t : Text} (h : isTail t = true) : IsAscii t := by
  fun_induction isTail t with
  | case1 => cases h
  | case2 c => exact isAscii_cons.mpr ⟨val_lt_of_isFinal h, List.forall_mem_nil _⟩
  | case3 c d rest ih =>
    obtain ⟨hinner, htail⟩ := Bool.and_eq_true_iff.mp h
    exact isAscii_cons.mpr ⟨val_lt_of_isInner hinner, ih htail⟩

theorem isAscii_of_isWord {t : Text} (h : isWord t = true) : IsAscii t := by
  cases t with
  | nil => cases h
  | cons c rest =>
    obtain ⟨hletter, htail⟩ := Bool.and_eq_true_iff.mp h
    exact isAscii_cons.mpr ⟨val_lt_of_isLetter hletter, isAscii_of_isTail htail⟩

theorem isAscii_of_isSegment {t : Text} (h : isSegment t = true) : IsAscii t := by
  rcases Bool.or_eq_true_iff.mp (Bool.and_eq_true_iff.mp h).2 with hword | hfed
  · exact isAscii_of_isWord hword
  · obtain ⟨hlast, hword⟩ := Bool.and_eq_true_iff.mp hfed
    obtain ⟨before, rfl⟩ := List.getLast?_eq_some_iff.mp (beq_iff_eq.mp hlast)
    rw [List.dropLast_concat] at hword
    intro c hc
    rcases List.mem_append.mp hc with hbefore | hfeed
    · exact isAscii_of_isWord hword c hbefore
    · rw [List.mem_singleton.mp hfeed]
      decide

theorem isAscii_name (a : AccountName) : IsAscii a.name := by
  have hfault := a.accepted
  unfold fault? at hfault
  split at hfault
  · cases hfault
  · rw [Option.map_eq_none_iff, List.find?_eq_none] at hfault
    intro c hc
    by_cases hpoint : c = point
    · rw [hpoint]
      decide
    · obtain ⟨piece, hpiece, hmem⟩ := Text.exists_piece_of_mem hc hpoint
      have hsegment : isSegment piece = true := by
        simpa using hfault piece hpiece
      exact isAscii_of_isSegment hsegment c hmem

/-- Account names have no surrogates. -/
theorem isEncodable_name (a : AccountName) : a.name.isEncodable = true := by
  rw [Text.isEncodable, List.all_eq_true]
  intro c hc
  have hascii := a.isAscii_name c hc
  simp only [CodePoint.isSurrogate, Bool.not_eq_true', Bool.and_eq_false_iff,
    decide_eq_false_iff_not]
  omega

end AccountName

end GrapheneSigner
