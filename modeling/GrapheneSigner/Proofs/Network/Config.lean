import GrapheneSigner.Network.Config
import GrapheneSigner.Proofs.Text.Hex
import GrapheneSigner.Proofs.Transaction.Built

/-!
# Settings that are accepted

A text is accepted as the chain id of settings exactly if it is hexadecimal.  The settings keep it
with its letters in lower case, and the bytes of their chain id are the ones that either form is
read as.
-/

namespace GrapheneSigner

/-- A reading ends with a value exactly if it gives the value. -/
theorem Reading.run_eq_ok_iff {α : Type} {r : Reading α} {a : α} : r.run = .ok a ↔ r = .ok a := by
  cases r with
  | ok b =>
    unfold run
    rw [Except.ok.injEq, ok.injEq]
  | issues found => exact iff_of_false nofun nofun
  | abort cause => exact iff_of_false nofun nofun

namespace Config

/-- A hexadecimal text is kept with its letters in lower case, and no other text is accepted. -/
theorem chainIdOf_chars_eq_ok_iff {t : Text} {r : { u : Text // Hex.isHex u = true }} :
    chainIdOf (.chars t) = .ok r ↔ Hex.IsForm t ∧ r.1 = t.map CodePoint.asciiLower := by
  unfold chainIdOf Reading.chars Reading.andThen
  dsimp only
  by_cases h : Hex.isHex t = true
  · rw [dif_pos h, Reading.ok.injEq, and_iff_right (Hex.isHex_iff.mp h), eq_comm, Subtype.ext_iff]
  · rw [dif_neg h]
    constructor
    · unfold Reading.issue
      dsimp only
      split
      · rintro ⟨⟩
      · rintro ⟨⟩
    · rintro ⟨hform, _⟩
      exact absurd (Hex.isHex_iff.mpr hform) h

/-- The bytes of the chain id are the ones that its digits are read as. -/
theorem read_chainId (c : Config) : Hex.read c.chainId = .ok c.chainBytes := by
  obtain ⟨b, hb⟩ := Hex.exists_read_iff.mpr (Hex.isHex_iff.mp c.chainId_isHex)
  unfold chainBytes
  rw [hb]
  rfl

variable {args : Arguments} {now : Except Foreign Value} {c : Config} {t : Text}

/-- The chain id of accepted settings is a hexadecimal text with its letters in lower case. -/
theorem chainId_of_ofArguments (hargs : args.get? "chain_id" = some (.chars t))
    (h : ofArguments args now = .ok c) :
    Hex.IsForm t ∧ c.chainId = t.map CodePoint.asciiLower := by
  obtain ⟨build₄, clock, h₄, _, rfl⟩ := Reading.of_seq_eq_ok (Reading.run_eq_ok_iff.mp h)
  obtain ⟨build₃, strict, h₃, _, rfl⟩ := Reading.of_seq_eq_ok h₄
  obtain ⟨build₂, attempts, h₂, _, rfl⟩ := Reading.of_seq_eq_ok h₃
  obtain ⟨build₁, offset, h₁, _, rfl⟩ := Reading.of_seq_eq_ok h₂
  obtain ⟨chainId, hchain, rfl⟩ := Reading.of_map_eq_ok h₁
  rw [hargs] at hchain
  exact chainIdOf_chars_eq_ok_iff.mp (Reading.of_behind_eq_ok hchain)

/-- Either form of the chain id is read as the same bytes. -/
theorem read_of_ofArguments (hargs : args.get? "chain_id" = some (.chars t))
    (h : ofArguments args now = .ok c) : Hex.read t = .ok c.chainBytes := by
  obtain ⟨_, hlower⟩ := chainId_of_ofArguments hargs h
  rw [← Hex.read_map_asciiLower, ← hlower]
  exact c.read_chainId

/-- A text is accepted as the chain id exactly if it is hexadecimal. -/
theorem exists_ofArguments_iff :
    (∃ c, ofArguments [(lit "chain_id", .chars t)] now = .ok c) ↔ Hex.IsForm t := by
  constructor
  · rintro ⟨c, h⟩
    exact (chainId_of_ofArguments rfl h).1
  · intro h
    have hhex : Hex.isHex (t.map CodePoint.asciiLower) = true := by
      rw [Hex.isHex, Hex.read_map_asciiLower]
      exact Hex.isHex_iff.mpr h
    have hchain : chainIdOf (.chars t) = .ok ⟨t.map CodePoint.asciiLower, hhex⟩ :=
      chainIdOf_chars_eq_ok_iff.mpr ⟨h, rfl⟩
    have hargs : Arguments.get? [(lit "chain_id", .chars t)] "chain_id" = some (.chars t) := rfl
    unfold ofArguments
    rw [hargs, Reading.optional, hchain]
    exact ⟨_, rfl⟩

end Config

end GrapheneSigner
