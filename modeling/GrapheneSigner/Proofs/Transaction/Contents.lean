import GrapheneSigner.Proofs.Operation.Decoding
import GrapheneSigner.Proofs.Transaction.Digest
import GrapheneSigner.Proofs.Wire.Plain

/-!
# Checked contents on the wire

Checked operations are written by plain calls.  So an operation has the same bytes by itself and as
part of a transaction, and nothing spoils the wire form of checked contents.
-/

namespace GrapheneSigner

open Writing

theorem Value.isPlain_writing_account (a : AccountName) (field : Option Text) :
    ((Value.account a).writing field).IsPlain :=
  isPlain_chars _ _

theorem Value.isPlain_writing_asset (a : Asset) (field : Option Text) :
    ((Value.asset a).writing field).IsPlain := by
  have hwire : Writing.IsPlain [.ok (.raw (.bytes a.symbol.wire))] := isPlain_call trivial
  exact (isPlain_fixed _ _ _).append ((isPlain_fixed _ _ _).append hwire)

theorem AccountSet.isPlain_writing (auths : List AccountName) (field : Text) :
    (writing (.list (auths.map .account)) field).IsPlain := by
  unfold writing
  rw [Decoder.names_accounts]
  have hnames := isPlain_flatMap fun name (_ : name ∈ ofNames (auths.map AccountName.name)) ↦
    isPlain_chars (.chars name) (some field)
  rw [← List.map_eq_flatMap] at hnames
  unfold calls
  dsimp only
  rw [List.map_cons, List.map_map]
  exact hnames.call trivial

namespace Operation

theorem isPlain_body (o : Operation) : o.toDraft.body.IsPlain := by
  have haccount := Value.isPlain_writing_account
  have hset := AccountSet.isPlain_writing
  cases o with
  | vote v =>
    exact (((haccount _ _).append (haccount _ _)).append (isPlain_chars _ _)).append
      (isPlain_fixed _ _ _)
  | transfer t =>
    exact (((haccount _ _).append (haccount _ _)).append
      (Value.isPlain_writing_asset _ _)).append (isPlain_chars _ _)
  | witnessVote w =>
    exact ((haccount _ _).append (haccount _ _)).append (isPlain_fixed _ _ _)
  | customJson c =>
    exact (((hset _ _).append (hset _ _)).append (isPlain_chars _ _)).append (isPlain_chars _ _)

/-- A checked operation is written by plain calls. -/
theorem isPlain_writing (o : Operation) : o.toEntry.writing.IsPlain := by
  have hwriting : o.toEntry.writing = .ok o.toDraft.kind.call :: o.toDraft.body := rfl
  rw [hwriting]
  exact o.isPlain_body.call trivial

/-- A checked operation writes its tag and its fields. -/
theorem writing_toEntry (o : Operation) : o.toEntry.writing
    = [.ok (.varint (.int o.kind.tag) (some (lit "operation_type")))] ++ o.toDraft.body := by
  cases o <;> rfl

/-- The bytes of a checked operation by itself are what it writes. -/
theorem encode_toEntry (o : Operation) : o.toEntry.encode = o.toEntry.writing.encode := by
  have hcovers : o.toEntry.frame.covers "to_bytes" = false := rfl
  rw [Entry.encode, Frame.guarding, if_neg (by simp [hcovers]), toBytes,
    o.isPlain_writing.spoilt?_eq_none]
  cases o.toEntry.writing.encode <;> rfl

theorem title_toEntry (o : Operation) : o.toEntry.title = .ok o.toDraft.kind.title := rfl

end Operation

namespace Contents

theorem spoilt?_toTransaction (c : Contents) : c.toTransaction.spoilt? = none := by
  unfold Transaction.spoilt?
  rw [List.findSome?_eq_none_iff]
  intro e he
  obtain ⟨o, _, rfl⟩ := List.mem_map.mp he
  exact o.isPlain_writing.spoilt?_eq_none

end Contents

end GrapheneSigner
