import GrapheneSigner.Network.ChainId
import GrapheneSigner.Proofs.Text.Hex
import GrapheneSigner.Proofs.Wire.Blame

/-!
# Chain ids that are given

Callers give a chain id as a text or as bytes, or give none.  Then only a text can be refused, and
it is refused exactly if it is not hexadecimal.
-/

namespace GrapheneSigner

namespace ChainId

/-- The value is a text or bytes, or there is none. -/
def IsForm : Value → Prop
  | .null => True
  | .chars _ => True
  | .bytes _ => True
  | _ => False

/-- What is to blame for a chain id that is refused. -/
def faults : Value → List Blame
  | .chars t => blameUnless (Hex.IsForm t) { field := lit "chain_id" }
  | _ => []

theorem blames_bytesOf {v : Value} (hform : IsForm v) : Blames (bytesOf v) (faults v) := by
  cases v with
  | null => exact .nobody []
  | bytes b =>
    rw [bytesOf_bytes]
    exact .nobody b
  | chars t =>
    dsimp only [faults]
    cases t with
    | nil => exact .nobody []
    | cons c rest =>
      unfold bytesOf
      dsimp only
      cases hread : Hex.read (c :: rest) with
      | ok b =>
        rw [blameUnless_eq_nil_iff.mpr (Hex.exists_read_iff.mp ⟨b, hread⟩)]
        exact .nobody b
      | error pos =>
        have hnone : ¬ Hex.IsForm (c :: rest) := by
          intro h
          obtain ⟨b, hb⟩ := Hex.exists_read_iff.mpr h
          rw [hread] at hb
          cases hb
        rw [blameUnless, if_neg hnone]
        exact .first (Blame.reports_own rfl rfl rfl)
  | _ => cases hform

/-- The refusal of a chain id shows no integer. -/
theorem not_mute_of_mem_faults {v : Value} {b : Blame} (h : b ∈ faults v) : b.isMute = false := by
  cases v with
  | chars t =>
    rw [eq_of_mem_blameUnless h]
    rfl
  | _ => cases h

/-- The bytes of a text are the ones that its digits are read as, also if there are none. -/
theorem bytesOf_chars {t : Text} {b : Bytes} (h : Hex.read t = .ok b) :
    bytesOf (.chars t) = .ok b := by
  cases t with
  | nil =>
    rw [← Bytes.hex_nil, Hex.read_hex, Except.ok.injEq] at h
    rw [← h]
    rfl
  | cons c rest =>
    unfold bytesOf
    dsimp only
    rw [h]
    rfl

theorem isOwn_of_bytesOf {v : Value} (hform : IsForm v) {failure : Failure}
    (h : bytesOf v = .error failure) : failure.isOwn = true := by
  obtain ⟨b, hb, hreports⟩ := (blames_bytesOf hform).exists_of_error h
  have hshown := not_mute_of_mem_faults (List.mem_of_mem_head? hb)
  obtain ⟨fault, rfl, _⟩ := hreports.exists_fault hshown
  rfl

/-- Whatever is given as a chain id, it fails with an encoding fault or a foreign failure. -/
theorem isRefusal_of_bytesOf {v : Value} {failure : Failure} (h : bytesOf v = .error failure) :
    failure.IsRefusal := by
  unfold bytesOf at h
  split at h
  · cases h
  split at h
  · cases h
  · split at h
    · cases h
    · cases h
      rfl
  · cases h
    trivial

end ChainId

end GrapheneSigner
