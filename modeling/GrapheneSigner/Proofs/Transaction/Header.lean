import GrapheneSigner.Proofs.Transaction.Decoding

/-!
# Headers

A wire form starts with the reference to a block, the expiration and the number of operations.  They
are read back from the front of every wire form, whatever the operations are and whatever follows.
-/

namespace GrapheneSigner

/-- What a wire form starts with. -/
structure WireHeader where
  refBlockNum : Int
  refBlockPrefix : Int
  expiration : Int
  operations : Nat
  deriving DecidableEq

/-- The header at the front of a byte string. -/
def Decoder.header : Decoder WireHeader := do
  let refBlockNum ← int .u16
  let refBlockPrefix ← int .u32
  let expiration ← int .u32
  let operations ← varint
  return ⟨refBlockNum, refBlockPrefix, expiration, operations⟩

def WireHeader.ofBytes? (b : Bytes) : Option WireHeader := (Decoder.header b).map Prod.fst

namespace Transaction

open Decoder

theorem undoes_header (t : Transaction) :
    Undoes Decoder.header t.header ⟨t.refBlockNum.integer?.getD 0,
      t.refBlockPrefix.integer?.getD 0 % 2 ^ 32, t.expiration.seconds, t.operations.length⟩ := by
  have hnum := undoes_fixed_getD .u16 t.refBlockNum (some (lit "ref_block_num"))
  have hprefix := undoes_prefixCall t.refBlockPrefix
  have hexpiration := undoes_fixed .u32 (v := .int t.expiration.seconds) rfl
    (some (lit "expiration"))
  have hcount := undoes_varint t.operations.length (some (lit "operations"))
  have hheader : t.header = [.ok (.fixed .u16 t.refBlockNum (some (lit "ref_block_num")))]
      ++ ([prefixCall t.refBlockPrefix]
        ++ ([.ok (.fixed .u32 (.int t.expiration.seconds) (some (lit "expiration")))]
          ++ [.ok (.varint (.int t.operations.length) (some (lit "operations")))])) := rfl
  rw [hheader]
  apply hnum.bind
  apply hprefix.bind
  apply hexpiration.bind
  exact hcount.bind_reads (reads_pure _)

/-- A block prefix that can be written is an integer. -/
theorem exists_integer_of_prefixCall {v : Value} {b : Bytes}
    (h : Writing.encode [prefixCall v] = .ok b) : ∃ pre, v.integer? = some pre := by
  unfold prefixCall at h
  cases hv : v.integer? with
  | some pre => exact ⟨pre, rfl⟩
  | none =>
    rw [hv] at h
    cases h

/-- A header that can be written refers to the block by integers. -/
theorem exists_integers_of_encode_header {t : Transaction} {b : Bytes}
    (h : t.header.encode = .ok b) :
    ∃ num pre, t.refBlockNum.integer? = some num ∧ t.refBlockPrefix.integer? = some pre := by
  have hheader : t.header = [.ok (.fixed .u16 t.refBlockNum (some (lit "ref_block_num")))]
      ++ ([prefixCall t.refBlockPrefix] ++ t.header.drop 2) := rfl
  rw [hheader] at h
  obtain ⟨_, _, hnum, h, _⟩ := Writing.exists_of_encode_append h
  obtain ⟨_, _, hprefix, _, _⟩ := Writing.exists_of_encode_append h
  obtain ⟨num, hinteger, _⟩ := Call.exists_of_encode_fixed (Writing.encode_of_encode_singleton hnum)
  obtain ⟨pre, hpre⟩ := exists_integer_of_prefixCall hprefix
  exact ⟨num, pre, hinteger, hpre⟩

/-- The header of a transaction is read back from its wire form; of the block prefix there are 32
bits. -/
theorem header_of_encode {t : Transaction} {b : Bytes} (h : t.encode [] = .ok b) :
    ∃ num pre, t.refBlockNum.integer? = some num ∧ t.refBlockPrefix.integer? = some pre ∧
      WireHeader.ofBytes? b
        = some ⟨num, pre % 2 ^ 32, t.expiration.seconds, t.operations.length⟩ := by
  obtain ⟨own, hown, rfl⟩ := encode_writing h
  obtain ⟨header, behind, hheader, _, rfl⟩ := Writing.exists_of_encode_append hown
  obtain ⟨num, pre, hnum, hpre⟩ := exists_integers_of_encode_header hheader
  refine ⟨num, pre, hnum, hpre, ?_⟩
  have hreads := t.undoes_header header hheader behind
  rw [hnum, hpre] at hreads
  unfold WireHeader.ofBytes?
  rw [hreads]
  rfl

end Transaction

end GrapheneSigner
