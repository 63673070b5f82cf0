import Mathlib.Data.List.Dedup
import Mathlib.Data.List.Sort
import GrapheneSigner.Operation.Draft

/-!
# Sets of names on the wire

Texts are in strict linear order, the one of the lists of their code points.  What is written for a
list of names is ascending in that order and has the same members, and so it depends on the set of
the names alone: it is what one gets by removing repetitions and sorting.
-/

namespace GrapheneSigner

namespace Text

/-- One text comes before another. -/
def Precedes (s t : Text) : Prop := s.before t = true

theorem cons_precedes_cons {a b : CodePoint} {s t : Text} :
    Precedes (a :: s) (b :: t) ↔ a.val < b.val ∨ a = b ∧ Precedes s t := by
  simp [Precedes, before]

theorem precedes_irrefl (s : Text) : ¬ Precedes s s := by
  induction s with
  | nil => simp [Precedes, before]
  | cons a s ih =>
    rw [cons_precedes_cons]
    rintro (hlt | ⟨_, h⟩)
    · exact Nat.lt_irrefl _ hlt
    · exact ih h

theorem Precedes.trans {s t u : Text} (h : Precedes s t) (h' : Precedes t u) : Precedes s u := by
  induction s generalizing t u with
  | nil =>
    cases u with
    | nil => cases t <;> simp [Precedes, before] at h h'
    | cons c u => rfl
  | cons a s ih =>
    cases t with
    | nil => simp [Precedes, before] at h
    | cons b t =>
      cases u with
      | nil => simp [Precedes, before] at h'
      | cons c u =>
        rw [cons_precedes_cons] at h h' ⊢
        rcases h with hlt | ⟨rfl, h⟩
        · rcases h' with hlt' | ⟨rfl, _⟩
          · exact .inl (Nat.lt_trans hlt hlt')
          · exact .inl hlt
        · rcases h' with hlt' | ⟨rfl, h'⟩
          · exact .inl hlt'
          · exact .inr ⟨rfl, ih h h'⟩

theorem precedes_trichotomous (s t : Text) : s = t ∨ Precedes s t ∨ Precedes t s := by
  induction s generalizing t with
  | nil =>
    cases t with
    | nil => exact .inl rfl
    | cons b t => exact .inr (.inl rfl)
  | cons a s ih =>
    cases t with
    | nil => exact .inr (.inr rfl)
    | cons b t =>
      rw [cons_precedes_cons, cons_precedes_cons]
      rcases Nat.lt_trichotomy a.val b.val with hlt | heq | hgt
      · exact .inr (.inl (.inl hlt))
      · have hab : a = b := CodePoint.ext_iff.mpr heq
        subst hab
        rcases ih t with rfl | h | h
        · exact .inl rfl
        · exact .inr (.inl (.inr ⟨rfl, h⟩))
        · exact .inr (.inr (.inr ⟨rfl, h⟩))
      · exact .inr (.inr (.inl hgt))

/-- Texts in the order of the lists of their code points. -/
def atMost (s t : Text) : Bool := !(t.map CodePoint.val).lex (s.map CodePoint.val) Nat.blt

theorem precedes_iff {s t : Text} :
    Precedes s t ↔ (s.map CodePoint.val).lex (t.map CodePoint.val) Nat.blt = true := by
  induction s generalizing t with
  | nil => cases t <;> simp [Precedes, before]
  | cons a s ih =>
    cases t with
    | nil => simp [Precedes, before]
    | cons b t =>
      rw [cons_precedes_cons, ih, List.map_cons, List.map_cons, List.cons_lex_cons,
        CodePoint.ext_iff]
      simp [Nat.blt_eq]

theorem atMost_iff {s t : Text} : atMost s t = true ↔ s = t ∨ Precedes s t := by
  rw [atMost, Bool.not_eq_true', Bool.eq_false_iff, ne_eq, ← precedes_iff]
  constructor
  · intro h
    rcases precedes_trichotomous s t with heq | hlt | hgt
    · exact .inl heq
    · exact .inr hlt
    · exact absurd hgt h
  · rintro (rfl | hlt) hgt
    · exact precedes_irrefl s hgt
    · exact precedes_irrefl s (hlt.trans hgt)

theorem atMost_trans {s t u : Text} (h : atMost s t = true) (h' : atMost t u = true) :
    atMost s u = true := by
  rw [atMost_iff] at h h' ⊢
  rcases h with rfl | h
  · exact h'
  · rcases h' with rfl | h'
    · exact .inr h
    · exact .inr (h.trans h')

theorem atMost_total (s t : Text) : (atMost s t || atMost t s) = true := by
  rw [Bool.or_eq_true, atMost_iff, atMost_iff]
  rcases precedes_trichotomous s t with heq | hlt | hgt
  · exact .inl (.inl heq)
  · exact .inl (.inr hlt)
  · exact .inr (.inr hgt)

instance : Std.Irrefl Precedes := ⟨precedes_irrefl⟩

instance : Std.Antisymm Precedes :=
  ⟨fun s _ h h' ↦ absurd (h.trans h') (precedes_irrefl s)⟩

end Text

namespace AccountSet

theorem mem_insert {name other : Text} {names : List Text} :
    name ∈ insert other names ↔ name = other ∨ name ∈ names := by
  induction names with
  | nil => simp [insert]
  | cons first rest ih =>
    unfold insert
    by_cases heq : other = first
    · rw [if_pos heq, heq]
      simp
    · rw [if_neg heq]
      split
      · exact List.mem_cons
      · rw [List.mem_cons, ih, List.mem_cons, or_left_comm]

theorem pairwise_insert (name : Text) {names : List Text}
    (h : names.Pairwise Text.Precedes) : (insert name names).Pairwise Text.Precedes := by
  induction names with
  | nil => exact List.pairwise_singleton _ _
  | cons first rest ih =>
    obtain ⟨hfirst, hrest⟩ := List.pairwise_cons.mp h
    unfold insert
    by_cases heq : name = first
    · rw [if_pos heq]
      exact h
    · rw [if_neg heq]
      split
      · rename_i hbefore
        refine List.pairwise_cons.mpr ⟨?_, h⟩
        intro other hother
        rcases List.mem_cons.mp hother with rfl | hother
        · exact hbefore
        · exact Text.Precedes.trans hbefore (hfirst other hother)
      · rename_i hbefore
        refine List.pairwise_cons.mpr ⟨?_, ih hrest⟩
        intro other hother
        rcases mem_insert.mp hother with rfl | hother
        · rcases Text.precedes_trichotomous other first with h | h | h
          · exact absurd h heq
          · exact absurd h hbefore
          · exact h
        · exact hfirst other hother

theorem mem_ofNames {name : Text} {names : List Text} : name ∈ ofNames names ↔ name ∈ names := by
  induction names with
  | nil => exact Iff.rfl
  | cons first rest ih =>
    rw [show ofNames (first :: rest) = insert first (ofNames rest) from rfl, mem_insert, ih,
      List.mem_cons]

theorem pairwise_ofNames (names : List Text) : (ofNames names).Pairwise Text.Precedes := by
  induction names with
  | nil => exact List.Pairwise.nil
  | cons first rest ih => exact pairwise_insert first ih

/-- What is written for a list of names is the list without repetitions, sorted. -/
theorem ofNames_eq_mergeSort (names : List Text) :
    ofNames names = names.dedup.mergeSort Text.atMost := by
  have htrans (s t u : Text) : s.atMost t = true → t.atMost u = true → s.atMost u = true :=
    Text.atMost_trans
  have hsorted := List.pairwise_mergeSort htrans Text.atMost_total names.dedup
  have hnodup : (names.dedup.mergeSort Text.atMost).Nodup :=
    (List.mergeSort_perm _ _).nodup_iff.mpr names.nodup_dedup
  have hstrict : (names.dedup.mergeSort Text.atMost).Pairwise Text.Precedes :=
    (hsorted.and hnodup).imp fun ⟨hle, hne⟩ ↦ (Text.atMost_iff.mp hle).resolve_left hne
  apply List.Pairwise.eq_of_mem_iff (pairwise_ofNames names) hstrict
  intro name
  rw [mem_ofNames, List.mem_mergeSort, List.mem_dedup]

theorem length_insert_le (name : Text) (names : List Text) :
    (insert name names).length ≤ names.length + 1 := by
  induction names with
  | nil => exact Nat.le_refl _
  | cons first rest ih =>
    unfold insert
    split
    · exact Nat.le_succ _
    split
    · exact Nat.le_refl _
    · exact Nat.succ_le_succ ih

theorem length_ofNames_le (names : List Text) : (ofNames names).length ≤ names.length := by
  induction names with
  | nil => exact Nat.le_refl _
  | cons first rest ih =>
    calc (ofNames (first :: rest)).length ≤ (ofNames rest).length + 1 := length_insert_le _ _
      _ ≤ rest.length + 1 := Nat.succ_le_succ ih

/-- Lists of names are written alike exactly if they have the same members. -/
theorem ofNames_eq_iff {names names' : List Text} :
    ofNames names = ofNames names' ↔ ∀ name, name ∈ names ↔ name ∈ names' := by
  constructor
  · intro h name
    rw [← mem_ofNames, h, mem_ofNames]
  · intro h
    apply List.Pairwise.eq_of_mem_iff (pairwise_ofNames names) (pairwise_ofNames names')
    intro name
    rw [mem_ofNames, mem_ofNames, h]

end AccountSet

end GrapheneSigner
