import Mathlib.Data.List.TakeWhile
import Mathlib.Tactic.Ring
import GrapheneSigner.Proofs.Text.Blank
import GrapheneSigner.Proofs.Text.Pieces
import GrapheneSigner.Text.Numeral

/-!
# The wide grammar of integers

A numeral of the wide grammar is spelled with white space around it, an optional sign, and groups of
decimal digits of any script with single underscores between them.  It stands for the number that
the digits of all groups make up.  Reading accepts these spellings and no others, as long as there
are not too many digits.
-/

namespace GrapheneSigner

namespace Numeral

/-! ## Digits -/

/-- A decimal digit of some script. -/
def IsDigit (c : CodePoint) : Prop := c.decimal?.isSome = true

/-- The number that is written by the digits of `acc` with a row of digits behind them. -/
def valueFrom (acc : ℕ) (t : Text) : ℕ := t.foldl (fun n c ↦ n * 10 + c.decimal?.getD 0) acc

/-- The number that a row of digits stands for. -/
def value (t : Text) : ℕ := valueFrom 0 t

def underscore : CodePoint := .ofNat 0x5F

/-- A row of at least one digit. -/
def IsGroup (t : Text) : Prop := t ≠ [] ∧ ∀ c ∈ t, IsDigit c

theorem valueFrom_eq (acc : ℕ) (t : Text) : valueFrom acc t = acc * 10 ^ t.length + value t := by
  unfold value
  induction t generalizing acc with
  | nil => simp [valueFrom]
  | cons c rest ih =>
    calc valueFrom acc (c :: rest)
        = (acc * 10 + c.decimal?.getD 0) * 10 ^ rest.length + valueFrom 0 rest := ih _
      _ = acc * 10 ^ (rest.length + 1)
          + ((0 * 10 + c.decimal?.getD 0) * 10 ^ rest.length + valueFrom 0 rest) := by ring
      _ = acc * 10 ^ (c :: rest).length + valueFrom 0 (c :: rest) := by
        rw [← ih (0 * 10 + _)]
        rfl

/-- Digits behind a row move it by their places. -/
theorem value_append (s t : Text) : value (s ++ t) = value s * 10 ^ t.length + value t := by
  unfold value
  rw [valueFrom, List.foldl_append]
  exact valueFrom_eq _ t

theorem isDigit_of_decimal? {c : CodePoint} {d : ℕ} (h : c.decimal? = some d) : IsDigit c := by
  rw [IsDigit, h, Option.isSome_some]

theorem not_isDigit_underscore : ¬ IsDigit underscore := by
  unfold IsDigit
  decide

theorem IsGroup.underscore_not_mem {t : Text} (h : IsGroup t) : underscore ∉ t :=
  fun hmem ↦ not_isDigit_underscore (h.2 _ hmem)

/-- All white space. -/
def whites : List ℕ :=
  [0x20, 0x09, 0x0A, 0x0B, 0x0C, 0x0D, 0x85, 0xA0, 0x1680, 0x2028, 0x2029, 0x202F, 0x205F, 0x3000,
    0x2000, 0x2001, 0x2002, 0x2003, 0x2004, 0x2005, 0x2006, 0x2007, 0x2008, 0x2009, 0x200A]

theorem val_mem_whites {c : CodePoint} (h : c.isWhite = true) : c.val ∈ whites := by
  simp only [CodePoint.isWhite, CodePoint.isAsciiBlank, Bool.or_eq_true, beq_iff_eq,
    Bool.and_eq_true, decide_eq_true_iff, List.contains_iff_mem, List.mem_cons,
    List.not_mem_nil, or_false] at h
  simp only [whites, List.mem_cons, List.not_mem_nil, or_false]
  omega

theorem isWhite_of_isDigit {c : CodePoint} (h : IsDigit c) : c.isWhite = false := by
  have hall : ∀ n ∈ whites, (CodePoint.ofNat n).decimal? = none := by decide +kernel
  rw [Bool.eq_false_iff]
  intro hwhite
  have hc : CodePoint.ofNat c.val = c := by
    rw [CodePoint.ext_iff, CodePoint.val_ofNat c.val_lt]
  have hnone := hall c.val (val_mem_whites hwhite)
  rw [hc] at hnone
  rw [IsDigit, hnone] at h
  cases h

theorem val_of_isDigit {c : CodePoint} (h : IsDigit c) : 0x30 ≤ c.val := by
  unfold IsDigit CodePoint.decimal? at h
  split at h
  · split at h
    · omega
    · cases h
  · omega

/-! ## Spellings -/

/-- What may stand in front of the digits. -/
inductive Sign where
  | none
  | plus
  | minus

/-- A written sign. -/
def Sign.text : Sign → Text
  | none => []
  | plus => [.ofNat 0x2B]
  | minus => [.ofNat 0x2D]

def Sign.isMinus : Sign → Bool
  | minus => true
  | _ => false

/-- A spelling of an integer: white space, a sign, groups of digits, and white space. -/
structure Spelling where
  front : Text
  sign : Sign
  groups : List Text
  back : Text
  front_white : ∀ c ∈ front, c.isWhite = true
  groups_ne_nil : groups ≠ []
  isGroup : ∀ g ∈ groups, IsGroup g
  back_white : ∀ c ∈ back, c.isWhite = true

namespace Spelling

/-- The text that is spelled, with an underscore between groups. -/
def text (s : Spelling) : Text :=
  s.front ++ (s.sign.text ++ Text.join [underscore] s.groups) ++ s.back

/-- The digits of all groups. -/
def digits (s : Spelling) : Text := s.groups.flatten

/-- The integer that a spelling stands for. -/
def value (s : Spelling) : ℤ := signed s.sign.isMinus (Numeral.value s.digits)

end Spelling

/-! ## Reading digits -/

/-- Groups of digits, of which the first one may be empty if it stands behind a digit. -/
def AreGroups (after : Bool) : List Text → Prop
  | [] => False
  | first :: rest => (after = false → first ≠ []) ∧ (∀ c ∈ first, IsDigit c) ∧ ∀ g ∈ rest, IsGroup g

theorem areGroups_false_iff {pieces : List Text} (h : pieces ≠ []) :
    AreGroups false pieces ↔ ∀ g ∈ pieces, IsGroup g := by
  cases pieces with
  | nil => exact absurd rfl h
  | cons first rest =>
    rw [List.forall_mem_cons, IsGroup, and_assoc]
    simp only [AreGroups, true_implies]

variable {t : Text} {n : ℕ}

/-- The digits that are read are groups, and the number is the one that they make up. -/
theorem digitsFrom?_eq_some_iff {after : Bool} {acc : ℕ} :
    digitsFrom? CodePoint.decimal? after acc t = some n ↔
      AreGroups after (Text.splitOn underscore t) ∧
        n = valueFrom acc (Text.splitOn underscore t).flatten := by
  induction t generalizing after acc with
  | nil => cases after <;> simp [digitsFrom?, Text.splitOn, AreGroups, valueFrom, eq_comm]
  | cons c rest ih =>
    rw [digitsFrom?]
    cases hc : c.decimal? with
    | some d =>
      have hne : c ≠ underscore := by
        rintro rfl
        exact not_isDigit_underscore (isDigit_of_decimal? hc)
      obtain ⟨piece, pieces, hpieces, hcons⟩ := Text.exists_splitOn_cons hne rest
      have hvalue : valueFrom (acc * 10 + d) (piece :: pieces).flatten
          = valueFrom acc ((c :: piece) :: pieces).flatten := by
        simp [valueFrom, hc]
      have hdigit : IsDigit c := isDigit_of_decimal? hc
      dsimp only
      rw [ih, hpieces, hcons, hvalue]
      simp [AreGroups, hdigit]
    | none =>
      dsimp only
      -- only an underscore may follow the digits, and the rest begins a new group
      by_cases hunderscore : c = underscore
      · have hsplit : Text.splitOn underscore (c :: rest)
            = [] :: Text.splitOn underscore rest := by
          rw [Text.splitOn, if_pos hunderscore]
        have hval : c.val = 0x5F := hunderscore ▸ rfl
        rw [hsplit]
        cases after with
        | false => simp [AreGroups]
        | true =>
          rw [if_pos (by simp [hval]), ih, areGroups_false_iff (Text.splitOn_ne_nil _ _)]
          simp [AreGroups]
      · obtain ⟨piece, pieces, _, hcons⟩ := Text.exists_splitOn_cons hunderscore rest
        have hval : c.val ≠ 0x5F := fun hval ↦ hunderscore (CodePoint.ext_iff.mpr hval)
        have hdigit : ¬ IsDigit c := by simp [IsDigit, hc]
        rw [hcons]
        simp [AreGroups, hval, hdigit]

theorem digits?_eq_some_iff : digits? CodePoint.decimal? t = some n ↔
    (∀ g ∈ Text.splitOn underscore t, IsGroup g) ∧ n = value (Text.splitOn underscore t).flatten := by
  rw [digits?, digitsFrom?_eq_some_iff, areGroups_false_iff (Text.splitOn_ne_nil _ _)]
  rfl

/-- Groups are read to their end. -/
theorem run_eq_self (h : ∀ g ∈ Text.splitOn underscore t, IsGroup g) :
    run CodePoint.decimal? t = t := by
  have hall : ∀ c ∈ t, ((c.decimal?).isSome || c.val == 0x5F) = true := by
    intro c hc
    by_cases hunderscore : c = underscore
    · rw [hunderscore]
      decide
    · obtain ⟨piece, hpiece, hmem⟩ := Text.exists_piece_of_mem hc hunderscore
      exact Bool.or_eq_true_iff.mpr (.inl ((h piece hpiece).2 c hmem))
  exact List.takeWhile_eq_self_iff.mpr hall

theorem digitCount_join {groups : List Text} (h : ∀ g ∈ groups, IsGroup g) :
    digitCount (Text.join [underscore] groups) = groups.flatten.length := by
  induction groups with
  | nil => rfl
  | cons g rest ih =>
    obtain ⟨hg, hrest⟩ := List.forall_mem_cons.mp h
    have hcount : digitCount g = g.length := List.countP_eq_length.mpr hg.2
    by_cases hnil : rest = []
    · rw [hnil, List.flatten_cons, List.flatten_nil, List.append_nil]
      exact hcount
    · have hunderscore : digitCount [underscore] = 0 := by decide
      rw [Text.join_cons _ _ hnil, List.flatten_cons, List.length_append, ← ih hrest, ← hcount]
      unfold digitCount at hunderscore ⊢
      rw [List.countP_append, List.countP_append, hunderscore, Nat.add_zero]

theorem digitCount_eq (h : ∀ g ∈ Text.splitOn underscore t, IsGroup g) :
    digitCount t = (Text.splitOn underscore t).flatten.length := by
  rw [← digitCount_join h, Text.join_splitOn]

/-! ## Reading a numeral -/

/-- A numeral is read if groups of digits remain without the white space and the sign. -/
theorem read_eq_ok_iff_groups {negative : Bool} {body : Text} {i : ℤ}
    (hcut : cutSign (t.trim CodePoint.isWhite) = (negative, body)) : read t = .ok i ↔
      (∀ g ∈ Text.splitOn underscore body, IsGroup g) ∧
      (Text.splitOn underscore body).flatten.length ≤ digitLimit ∧
      i = signed negative (value (Text.splitOn underscore body).flatten) := by
  unfold read
  rw [hcut]
  dsimp only
  constructor
  · intro h
    cases hdigits : digits? CodePoint.decimal? (run CodePoint.decimal? body) with
    | none =>
      rw [hdigits] at h
      cases h
    | some n =>
      rw [hdigits] at h
      dsimp only at h
      split at h
      · cases h
      · rename_i hcount
        split at h
        · rename_i hlength
          cases h
          have hrun : run CodePoint.decimal? body = body :=
            (List.takeWhile_prefix _).eq_of_length hlength
          rw [hrun] at hdigits hcount
          obtain ⟨hgroups, hn⟩ := digits?_eq_some_iff.mp hdigits
          rw [digitCount_eq hgroups] at hcount
          exact ⟨hgroups, Nat.le_of_not_lt hcount, by rw [hn]⟩
        · cases h
  · intro h
    obtain ⟨hgroups, hcount, rfl⟩ := h
    rw [run_eq_self hgroups, digits?_eq_some_iff.mpr ⟨hgroups, rfl⟩]
    dsimp only
    rw [digitCount_eq hgroups, if_neg (Nat.not_lt.mpr hcount), if_pos rfl]

/-- A sign is cut off. -/
theorem exists_cutSign (t : Text) :
    ∃ (sign : Sign) (body : Text), t = sign.text ++ body ∧ cutSign t = (sign.isMinus, body) := by
  cases t with
  | nil => exact ⟨.none, [], rfl, rfl⟩
  | cons c rest =>
    rw [cutSign]
    by_cases hplus : c.val = 0x2B
    · rw [if_pos hplus]
      have hc : c = .ofNat 0x2B := CodePoint.ext_iff.mpr hplus
      exact ⟨.plus, rest, by rw [hc]; rfl, rfl⟩
    · by_cases hminus : c.val = 0x2D
      · rw [if_neg hplus, if_pos hminus]
        have hc : c = .ofNat 0x2D := CodePoint.ext_iff.mpr hminus
        exact ⟨.minus, rest, by rw [hc]; rfl, rfl⟩
      · rw [if_neg hplus, if_neg hminus]
        exact ⟨.none, c :: rest, rfl, rfl⟩

theorem cutSign_append (sign : Sign) (h : ∀ c, t.head? = some c → IsDigit c) :
    cutSign (sign.text ++ t) = (sign.isMinus, t) := by
  cases sign with
  | none =>
    cases t with
    | nil => rfl
    | cons c rest =>
      have hc := val_of_isDigit (h c rfl)
      change cutSign (c :: rest) = _
      rw [cutSign, if_neg (by omega), if_neg (by omega)]
      rfl
  | plus => rfl
  | minus => rfl

theorem Sign.eq_of_mem {sign : Sign} {c : CodePoint} (h : c ∈ sign.text) :
    c = .ofNat 0x2B ∨ c = .ofNat 0x2D := by
  cases sign with
  | none => cases h
  | plus => exact .inl (List.mem_singleton.mp h)
  | minus => exact .inr (List.mem_singleton.mp h)

theorem isWhite_of_mem_sign {sign : Sign} {c : CodePoint} (h : c ∈ sign.text) :
    c.isWhite = false := by
  rcases Sign.eq_of_mem h with rfl | rfl <;> decide

theorem not_isDigit_of_mem_sign {sign : Sign} {c : CodePoint} (h : c ∈ sign.text) :
    ¬ IsDigit c := by
  unfold IsDigit
  rcases Sign.eq_of_mem h with rfl | rfl <;> decide

/-- Groups that are joined consist of digits and underscores. -/
theorem eq_or_isDigit_of_mem_join {groups : List Text} (h : ∀ g ∈ groups, IsGroup g)
    {c : CodePoint} (hc : c ∈ Text.join [underscore] groups) : c = underscore ∨ IsDigit c := by
  by_cases hunderscore : c = underscore
  · exact .inl hunderscore
  · by_cases hnil : groups = []
    · rw [hnil] at hc
      cases hc
    · obtain ⟨piece, hpiece, hmem⟩ := Text.exists_piece_of_mem hc hunderscore
      rw [Text.splitOn_join hnil fun g hg ↦ (h g hg).underscore_not_mem] at hpiece
      exact .inr ((h piece hpiece).2 c hmem)

theorem isWhite_of_mem_join {groups : List Text} (h : ∀ g ∈ groups, IsGroup g) {c : CodePoint}
    (hc : c ∈ Text.join [underscore] groups) : c.isWhite = false := by
  rcases eq_or_isDigit_of_mem_join h hc with rfl | hdigit
  · decide
  · exact isWhite_of_isDigit hdigit

theorem head?_join {groups : List Text} (h : ∀ g ∈ groups, IsGroup g) {c : CodePoint}
    (hc : (Text.join [underscore] groups).head? = some c) : IsDigit c := by
  cases groups with
  | nil => cases hc
  | cons g rest =>
    obtain ⟨hne, hdigits⟩ := h g List.mem_cons_self
    cases g with
    | nil => exact absurd rfl hne
    | cons d g =>
      rw [Text.join_cons_cons, List.head?_cons, Option.some.injEq] at hc
      rw [← hc]
      exact hdigits d List.mem_cons_self

/-- Between the white space stand the sign and the groups. -/
theorem Spelling.trim_text (s : Spelling) : s.text.trim CodePoint.isWhite
    = s.sign.text ++ Text.join [underscore] s.groups := by
  apply Text.trim_append s.front_white _ s.back_white
  intro c hc
  rcases List.mem_append.mp hc with hc | hc
  · exact isWhite_of_mem_sign hc
  · exact isWhite_of_mem_join s.isGroup hc

/-- A spelling is read as the integer that it stands for, unless it has too many digits. -/
theorem Spelling.read_eq_ok_iff (s : Spelling) {i : ℤ} :
    read s.text = .ok i ↔ s.digits.length ≤ digitLimit ∧ i = s.value := by
  have hcut : cutSign (s.text.trim CodePoint.isWhite)
      = (s.sign.isMinus, Text.join [underscore] s.groups) := by
    rw [s.trim_text, cutSign_append _ fun _ ↦ head?_join s.isGroup]
  have hsplit : Text.splitOn underscore (Text.join [underscore] s.groups) = s.groups :=
    Text.splitOn_join s.groups_ne_nil fun g hg ↦ (s.isGroup g hg).underscore_not_mem
  rw [read_eq_ok_iff_groups hcut, hsplit]
  constructor
  · intro h
    exact h.2
  · intro h
    exact ⟨s.isGroup, h⟩

/-- Reading accepts the spellings with at most so many digits as are allowed, and gives the integers
that they stand for. -/
theorem read_eq_ok_iff {i : ℤ} : read t = .ok i ↔
    ∃ s : Spelling, t = s.text ∧ s.digits.length ≤ digitLimit ∧ i = s.value := by
  constructor
  · intro h
    obtain ⟨front, back, ht, hfront, hback⟩ := Text.exists_eq_append_trim CodePoint.isWhite t
    obtain ⟨sign, body, hbody, hcut⟩ := exists_cutSign (t.trim CodePoint.isWhite)
    obtain ⟨hgroups, hcount, hi⟩ := (read_eq_ok_iff_groups hcut).mp h
    refine ⟨⟨front, sign, Text.splitOn underscore body, back, hfront, Text.splitOn_ne_nil _ _,
      hgroups, hback⟩, ?_, hcount, hi⟩
    rw [Spelling.text, Text.join_splitOn, ← hbody]
    exact ht
  · intro h
    obtain ⟨s, rfl, hs⟩ := h
    exact s.read_eq_ok_iff.mpr hs

/-! ## Digits behind groups -/

/-- Digits behind groups belong to the last group, or make up the only one. -/
theorem exists_groups_append {groups : List Text} {row : Text} (h : ∀ g ∈ groups, IsGroup g)
    (hrow : IsGroup row) : ∃ glued, glued ≠ [] ∧ (∀ g ∈ glued, IsGroup g) ∧
      Text.join [underscore] glued = Text.join [underscore] groups ++ row ∧
      glued.flatten = groups.flatten ++ row := by
  obtain rfl | ⟨front, last, hlast⟩ := List.eq_nil_or_concat groups
  · refine ⟨[row], List.cons_ne_nil _ _, ?_, rfl, List.append_nil row⟩
    intro g hg
    rwa [List.mem_singleton.mp hg]
  · rw [List.concat_eq_append] at hlast
    rw [hlast] at h ⊢
    have hgroup : IsGroup last := h last (by simp)
    refine ⟨front ++ [last ++ row], by simp, ?_, Text.join_append_last _ _ _ _, by simp⟩
    intro g hg
    rcases List.mem_append.mp hg with hg | hg
    · exact h g (List.mem_append_left _ hg)
    · rw [List.mem_singleton.mp hg]
      exact ⟨List.append_ne_nil_of_right_ne_nil _ hrow.1,
        List.forall_mem_append.mpr ⟨hgroup.2, hrow.2⟩⟩

theorem getLast?_join {groups : List Text} (h : ∀ g ∈ groups, IsGroup g) {c : CodePoint}
    (hc : (Text.join [underscore] groups).getLast? = some c) : IsDigit c := by
  obtain rfl | ⟨front, last, hlast⟩ := List.eq_nil_or_concat groups
  · cases hc
  · rw [List.concat_eq_append] at hlast
    obtain ⟨hne, hdigits⟩ : IsGroup last := h last (by simp [hlast])
    have hjoin : Text.join [underscore] groups = Text.join [underscore] (front ++ [[]]) ++ last := by
      rw [hlast]
      exact Text.join_append_last _ _ [] last
    rw [hjoin, List.getLast?_append, List.getLast?_eq_some_getLast hne, Option.some_or] at hc
    cases hc
    exact hdigits _ (List.getLast_mem hne)

/-- What stands in front of digits of groups is groups, unless it ends with an underscore. -/
theorem exists_groups_of_append {glued : List Text} {front row : Text} (hne : glued ≠ [])
    (h : ∀ g ∈ glued, IsGroup g) (hglued : front ++ row = Text.join [underscore] glued)
    (hrow : ∀ c ∈ row, IsDigit c) (hfront : front.getLast? ≠ some underscore) :
    ∃ groups, (∀ g ∈ groups, IsGroup g) ∧ front = Text.join [underscore] groups := by
  have hmem : underscore ∉ row := fun hmem ↦ not_isDigit_underscore (hrow _ hmem)
  obtain ⟨pieces, last, hsplit, happend⟩ := Text.exists_splitOn_append hmem front
  rw [hglued, Text.splitOn_join hne fun g hg ↦ (h g hg).underscore_not_mem] at happend
  have hjoin : front = Text.join [underscore] (pieces ++ [last]) := by
    rw [← hsplit, Text.join_splitOn]
  have hpieces : ∀ g ∈ pieces, IsGroup g := fun g hg ↦ h g (by simp [happend, hg])
  -- an empty last piece is allowed only if it is the one piece of an empty text
  by_cases hlast : last = []
  · by_cases hnil : pieces = []
    · exact ⟨[], by simp, by rw [hjoin, hnil, hlast]; rfl⟩
    · rw [hlast, Text.join_concat hnil, List.append_nil] at hjoin
      rw [hjoin, List.getLast?_append, List.getLast?_singleton, Option.some_or] at hfront
      exact absurd rfl hfront
  · refine ⟨pieces ++ [last], ?_, hjoin⟩
    have hgroup : IsGroup (last ++ row) := h _ (by simp [happend])
    intro g hg
    rcases List.mem_append.mp hg with hg | hg
    · exact hpieces g hg
    · rw [List.mem_singleton.mp hg]
      exact ⟨hlast, (List.forall_mem_append.mp hgroup.2).1⟩

end Numeral

end GrapheneSigner
