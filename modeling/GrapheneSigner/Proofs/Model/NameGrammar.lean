import GrapheneSigner.Intake.Model
import GrapheneSigner.Proofs.Text.Pieces

/-!
# The grammar of account names

The rules of the network for account names are written down as a grammar: 3 to 16 characters, and
segments of at least three characters with points between them, each of which begins with a lower
case letter, goes on with lower case letters, digits and dashes, and ends with a letter or a digit.

Every name of this grammar is accepted.  The names that are accepted beyond it are those in which
segments end with a line feed: one is let pass behind a word and counts as a character of the
segment.  For texts without line feeds acceptance and the grammar are the same.
-/

namespace GrapheneSigner

/-- A field that is read by a rule in words has what the rule gives. -/
theorem Reading.run_at_ofExcept_eq_ok_iff {α : Type} {name : String} {r : Except Text α} {a : α} :
    ((Reading.ofExcept r).at name).run = .ok a ↔ r = .ok a := by
  cases r with
  | ok b => simp [Reading.ofExcept, Reading.at, Reading.behind, Reading.run]
  | error message =>
    unfold Reading.ofExcept Reading.issue
    dsimp only
    split <;> simp [Reading.at, Reading.behind, Reading.run]

namespace AccountName

/-! ## The grammar -/

def IsLower (c : CodePoint) : Prop := 0x61 ≤ c.val ∧ c.val ≤ 0x7A

def IsLowerOrDigit (c : CodePoint) : Prop := IsLower c ∨ (0x30 ≤ c.val ∧ c.val ≤ 0x39)

/-- Lower case letters, digits and the dash. -/
def IsInside (c : CodePoint) : Prop := IsLowerOrDigit c ∨ c.val = 0x2D

/-- Letters, digits and dashes that begin with a letter and end, behind it, with a letter or a
digit. -/
structure IsWord (t : Text) : Prop where
  begins : ∃ c, t.head? = some c ∧ IsLower c
  ends : ∃ c, t.getLast? = some c ∧ IsLowerOrDigit c
  inside : ∀ c ∈ t, IsInside c
  two_le : 2 ≤ t.length

/-- A word that a line feed may follow. -/
def IsFedWord (t : Text) : Prop := IsWord t ∨ ∃ word, t = word ++ [lineFeed] ∧ IsWord word

/-- A text of 3 to 16 characters that consists of segments of the given form, which have at least
three characters each, with points between them. -/
def IsSegmented (form : Text → Prop) (t : Text) : Prop :=
  (3 ≤ t.length ∧ t.length ≤ 16) ∧ ∃ segments, segments ≠ [] ∧ t = Text.join [point] segments ∧
    ∀ segment ∈ segments, 3 ≤ segment.length ∧ form segment

variable {c : CodePoint} {t : Text}

/-! ## Words -/

theorem isLetter_iff : isLetter c = true ↔ IsLower c := by
  rw [isLetter, Bool.and_eq_true, decide_eq_true_iff, decide_eq_true_iff]
  rfl

theorem isFinal_iff : isFinal c = true ↔ IsLowerOrDigit c := by
  rw [isFinal, isDigit, Bool.or_eq_true, isLetter_iff, Bool.and_eq_true, decide_eq_true_iff,
    decide_eq_true_iff]
  rfl

theorem isInner_iff : isInner c = true ↔ IsInside c := by
  rw [IsInside, ← isFinal_iff, isInner, isFinal, Bool.or_eq_true, beq_iff_eq]

/-- A tail is read off its last character and all characters. -/
theorem isTail_iff : isTail t = true ↔
    (∃ c, t.getLast? = some c ∧ IsLowerOrDigit c) ∧ ∀ c ∈ t, IsInside c := by
  fun_induction isTail t with
  | case1 => simp
  | case2 c =>
    rw [isFinal_iff, List.getLast?_singleton]
    simp only [Option.some.injEq, exists_eq_left', List.mem_singleton, forall_eq]
    constructor
    · intro h
      exact ⟨h, .inl h⟩
    · intro h
      exact h.1
  | case3 c d rest ih =>
    rw [Bool.and_eq_true, isInner_iff, ih, List.getLast?_cons_cons, and_left_comm]
    exact and_congr_right fun _ ↦ List.forall_mem_cons.symm

theorem isWord_iff : isWord t = true ↔ IsWord t := by
  cases t with
  | nil =>
    constructor
    · intro h
      cases h
    · intro h
      obtain ⟨c, hc, _⟩ := h.begins
      cases hc
  | cons c rest =>
    rw [isWord, Bool.and_eq_true, isLetter_iff, isTail_iff]
    constructor
    · intro h
      obtain ⟨hletter, ⟨d, hlast, hd⟩, hinside⟩ := h
      cases rest with
      | nil => cases hlast
      | cons e rest =>
        refine ⟨⟨c, rfl, hletter⟩, ⟨d, ?_, hd⟩, ?_, by simp⟩
        · rw [List.getLast?_cons_cons, hlast]
        · exact List.forall_mem_cons.mpr ⟨.inl (.inl hletter), hinside⟩
    · intro h
      obtain ⟨⟨_, hhead, hletter⟩, ⟨d, hlast, hd⟩, hinside, htwo⟩ := h
      cases hhead
      cases rest with
      | nil => exact absurd htwo (by simp)
      | cons e rest =>
        rw [List.getLast?_cons_cons] at hlast
        exact ⟨hletter, ⟨d, hlast, hd⟩, (List.forall_mem_cons.mp hinside).2⟩

/-! ## Segments -/

theorem isSegment_iff : isSegment t = true ↔ 3 ≤ t.length ∧ IsFedWord t := by
  have hfed : (t.getLast? == some lineFeed && isWord t.dropLast) = true ↔
      ∃ word, t = word ++ [lineFeed] ∧ IsWord word := by
    rw [Bool.and_eq_true, beq_iff_eq, List.getLast?_eq_some_iff, isWord_iff]
    constructor
    · intro h
      obtain ⟨⟨word, rfl⟩, hword⟩ := h
      rw [List.dropLast_concat] at hword
      exact ⟨word, rfl, hword⟩
    · intro h
      obtain ⟨word, rfl, hword⟩ := h
      rw [List.dropLast_concat]
      exact ⟨⟨word, rfl⟩, hword⟩
  rw [isSegment, Bool.and_eq_true, decide_eq_true_iff, Bool.or_eq_true, isWord_iff, hfed]
  rfl

theorem IsWord.not_mem (h : IsWord t) (hc : ¬ IsInside c) : c ∉ t :=
  fun hmem ↦ hc (h.inside c hmem)

theorem IsWord.point_not_mem (h : IsWord t) : point ∉ t := by
  apply h.not_mem
  unfold IsInside IsLowerOrDigit IsLower
  decide

theorem IsWord.lineFeed_not_mem (h : IsWord t) : lineFeed ∉ t := by
  apply h.not_mem
  unfold IsInside IsLowerOrDigit IsLower
  decide

theorem IsFedWord.point_not_mem (h : IsFedWord t) : point ∉ t := by
  rcases h with h | ⟨word, rfl, h⟩
  · exact h.point_not_mem
  · rw [List.mem_append, List.mem_singleton, not_or]
    exact ⟨h.point_not_mem, by decide⟩

/-- A text whose segments have no points is segmented as it is cut at its points. -/
theorem isSegmented_iff {form : Text → Prop} (hform : ∀ s, form s → point ∉ s) :
    IsSegmented form t ↔ (3 ≤ t.length ∧ t.length ≤ 16) ∧
      ∀ segment ∈ Text.splitOn point t, 3 ≤ segment.length ∧ form segment := by
  unfold IsSegmented
  apply and_congr_right
  intro _
  constructor
  · intro h
    obtain ⟨segments, hne, rfl, hsegments⟩ := h
    rw [Text.splitOn_join hne fun s hs ↦ hform s (hsegments s hs).2]
    exact hsegments
  · intro h
    exact ⟨_, Text.splitOn_ne_nil point t, (Text.join_splitOn point t).symm, h⟩

/-! ## Acceptance -/

theorem fault?_eq_none_iff : fault? t = none ↔ IsSegmented IsFedWord t := by
  rw [isSegmented_iff fun _ ↦ IsFedWord.point_not_mem]
  unfold fault?
  split
  · rename_i hlength
    simp only [reduceCtorEq, false_iff]
    intro h
    omega
  · rename_i hlength
    rw [Option.map_eq_none_iff, List.find?_eq_none]
    simp only [Bool.not_eq_true, Bool.not_eq_false', isSegment_iff]
    constructor
    · intro h
      exact ⟨by omega, h⟩
    · intro h
      exact h.2

theorem ofArgument_run_eq_ok_iff {a : AccountName} :
    (ofArgument (.chars t)).run = .ok a ↔ a.name = t := by
  rw [← read_eq_ok_iff]
  exact Reading.run_at_ofExcept_eq_ok_iff

theorem exists_ofArgument_iff :
    (∃ a, (ofArgument (.chars t)).run = .ok a ∧ a.name = t) ↔ IsSegmented IsFedWord t := by
  rw [← fault?_eq_none_iff]
  constructor
  · intro h
    obtain ⟨a, _, rfl⟩ := h
    exact a.accepted
  · intro h
    exact ⟨⟨t, h⟩, ofArgument_run_eq_ok_iff.mpr rfl, rfl⟩

/-- Without a line feed a word is not followed by one. -/
theorem isSegmented_isWord_iff :
    IsSegmented IsWord t ↔ IsSegmented IsFedWord t ∧ lineFeed ∉ t := by
  rw [isSegmented_iff fun _ ↦ IsWord.point_not_mem, isSegmented_iff fun _ ↦ IsFedWord.point_not_mem]
  constructor
  · intro h
    refine ⟨⟨h.1, fun s hs ↦ ⟨(h.2 s hs).1, .inl (h.2 s hs).2⟩⟩, ?_⟩
    intro hfeed
    obtain ⟨piece, hpiece, hmem⟩ : ∃ piece ∈ Text.splitOn point t, lineFeed ∈ piece :=
      Text.exists_piece_of_mem hfeed (by decide)
    exact (h.2 piece hpiece).2.lineFeed_not_mem hmem
  · intro h
    obtain ⟨⟨hlength, hsegments⟩, hfeed⟩ := h
    refine ⟨hlength, fun s hs ↦ ⟨(hsegments s hs).1, ?_⟩⟩
    rcases (hsegments s hs).2 with hword | ⟨word, rfl, _⟩
    · exact hword
    · exact absurd (Text.mem_of_mem_piece hs (by simp)) hfeed

/-- Accepted are the names of the grammar, and beyond it those in which a line feed ends segments.
A text is accepted exactly if it is segmented into words behind each of which one line feed may
stand, and the name is then the text.  The names of the grammar are exactly the accepted texts
without line feeds. -/
theorem accepted_iff_segmented (t : Text) :
    ((∃ a, (ofArgument (.chars t)).run = .ok a ∧ a.name = t) ↔ IsSegmented IsFedWord t) ∧
    (IsSegmented IsWord t ↔
      (∃ a, (ofArgument (.chars t)).run = .ok a ∧ a.name = t) ∧ lineFeed ∉ t) := by
  rw [exists_ofArgument_iff]
  exact ⟨Iff.rfl, isSegmented_isWord_iff⟩

/-- A line feed behind a name is accepted, although it belongs to no name of the grammar. -/
theorem exists_accepted_line_feed :
    let t := lit "abc" ++ [lineFeed]
    (∃ a, (ofArgument (.chars t)).run = .ok a ∧ a.name = t) ∧ ¬ IsSegmented IsWord t := by
  intro t
  constructor
  · exact ⟨⟨t, by decide⟩, ofArgument_run_eq_ok_iff.mpr rfl, rfl⟩
  · intro h
    exact (isSegmented_isWord_iff.mp h).2 (by decide)

end AccountName

end GrapheneSigner
