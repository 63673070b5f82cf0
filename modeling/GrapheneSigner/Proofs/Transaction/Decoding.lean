import Mathlib.Algebra.Group.Int.Defs
import GrapheneSigner.Proofs.Operation.Decoding
import GrapheneSigner.Proofs.Transaction.Digest

/-!
# Transactions read back

What is written for a transaction that lists checked operations and extensions is its normal form
and nothing else: the normal form is read back from the bytes, and transactions with the same normal
form have the same bytes.  Of the other fields nothing is assumed; a transaction whose block number
or prefix is no integer cannot be written at all.
-/

namespace GrapheneSigner

/-- What a transaction is on the wire.  Of the block prefix there are 32 bits, and of the
extensions there is the number. -/
structure NormalForm where
  refBlockNum : Int
  refBlockPrefix : Int
  expiration : Nat
  operations : List NormalOperation
  extensions : Nat
  deriving DecidableEq

/-- The transaction lists these checked operations and extensions. -/
structure Transaction.Lists (t : Transaction) (os : List Operation) (es : List Extension) :
    Prop where
  operations : t.operations = os.map Operation.toEntry
  extensions : t.extensions = es.map Value.extension

/-- The normal form of a transaction that lists these operations. -/
def Transaction.normalForm (t : Transaction) (os : List Operation) : NormalForm :=
  { refBlockNum := t.refBlockNum.integer?.getD 0
    refBlockPrefix := t.refBlockPrefix.integer?.getD 0 % 2 ^ 32
    expiration := t.expiration.seconds, operations := os.map Operation.normal
    extensions := t.extensions.length }

namespace Decoder

/-- A normal form, of which the extensions are zeros. -/
def normalForm : Decoder NormalForm := do
  let refBlockNum ← int .u16
  let refBlockPrefix ← int .u32
  let expiration ← int .u32
  let operations ← varint
  let operations ← many operation operations
  let extensions ← varint
  let _ ← many varint extensions
  return ⟨refBlockNum, refBlockPrefix, expiration.toNat, operations, extensions⟩

/-- A chain of some length with a normal form behind it. -/
def signable (length : Nat) : Decoder (Bytes × NormalForm) := do
  let chain ← bytes length
  let form ← normalForm
  return (chain, form)

end Decoder

/-- The chain and the normal form that make up a byte string, of which nothing may be left. -/
def NormalForm.decode? (length : Nat) (b : Bytes) : Option (Bytes × NormalForm) :=
  match Decoder.signable length b with
  | some (found, []) => some found
  | _ => none

namespace Transaction

/-- Everything that a transaction writes. -/
def writing (t : Transaction) : Writing :=
  t.header ++ (t.operations.flatMap Entry.writing ++ t.trailer)

theorem encode_of_encodeOperations {i : Nat} {es : List Entry} {b : Bytes}
    (h : encodeOperations i es = .ok b) : Writing.encode (es.flatMap Entry.writing) = .ok b := by
  induction es generalizing i b with
  | nil => exact h
  | cons e rest ih =>
    unfold encodeOperations at h
    cases hfirst : e.writing.encode with
    | error failure => simp [hfirst] at h
    | ok first =>
      cases hrest : encodeOperations (i + 1) rest with
      | error failure => simp [hfirst, hrest] at h
      | ok more =>
        simp only [hfirst, hrest] at h
        cases h
        rw [List.flatMap_cons, Writing.encode_append, hfirst, Except.bind, ih hrest]
        rfl

/-- The wire form of a transaction is what it writes, behind the chain. -/
theorem encode_writing {t : Transaction} {chain b : Bytes} (h : t.encode chain = .ok b) :
    ∃ own, t.writing.encode = .ok own ∧ b = chain ++ own := by
  obtain ⟨header, hheader, h⟩ := exists_of_bind_eq_ok h
  obtain ⟨operations, hoperations, h⟩ := exists_of_bind_eq_ok h
  obtain ⟨trailer, htrailer, h⟩ := exists_of_bind_eq_ok h
  refine ⟨header ++ (operations ++ trailer), ?_, ?_⟩
  · unfold writing
    rw [Writing.encode_append, Writing.encode_append, hheader,
      encode_of_encodeOperations hoperations, htrailer]
    rfl
  · cases hspoilt : t.spoilt? with
    | some failure =>
      rw [hspoilt] at h
      cases h
    | none =>
      rw [hspoilt] at h
      cases h
      simp only [List.append_assoc]

theorem encode_of_serialize {t : Transaction} {chainId : Value} {chain b : Bytes}
    (hchain : ChainId.bytesOf chainId = .ok chain) (h : t.serialize chainId = .ok b) :
    t.encode chain = .ok b := by
  unfold serialize at h
  rw [hchain] at h
  exact h

/-! ## From the bytes to the normal form -/

open Decoder

theorem undoes_prefixCall (v : Value) :
    Undoes (int .u32) [prefixCall v] (v.integer?.getD 0 % 2 ^ 32) := by
  unfold prefixCall
  cases v.integer? with
  | none => exact undoes_error _ _ _
  | some i => exact undoes_fixed .u32 rfl _

theorem undoes_extensionsCall (t : Transaction) (field : Text) :
    Undoes varint [t.extensionsCall field] t.extensions.length := by
  unfold extensionsCall
  by_cases hsize : t.extensionsHolder.hasSize
  · rw [if_pos hsize]
    exact undoes_varint _ _
  · rw [if_neg hsize]
    exact undoes_error _ _ _

theorem undoes_extension (e : Extension) (field : Option Text) :
    Undoes varint ((Value.extension e).writing field) 0 := by
  unfold Value.writing
  dsimp only
  by_cases hzero : e.typeId = 0
  · rw [if_pos hzero, hzero]
    exact undoes_varint 0 field
  · rw [if_neg hzero]
    exact undoes_error _ _ _

/-- The parts of what a transaction writes that lists checked operations and extensions. -/
theorem Lists.writing_eq {t : Transaction} {os : List Operation} {es : List Extension}
    (h : t.Lists os es) :
    t.writing = [.ok (.fixed .u16 t.refBlockNum (some (lit "ref_block_num")))]
      ++ ([prefixCall t.refBlockPrefix]
        ++ ([.ok (.fixed .u32 (.int t.expiration.seconds) (some (lit "expiration")))]
          ++ ([.ok (.varint (.int os.length) (some (lit "operations")))]
            ++ (os.flatMap (fun o ↦ o.toEntry.writing)
              ++ ([t.extensionsCall (lit "extensions")]
                ++ es.flatMap fun e ↦
                  (Value.extension e).writing (some (lit "extensions"))))))) := by
  have hlength : t.operations.length = os.length := by
    rw [h.operations, List.length_map]
  have hoperations : t.operations.flatMap Entry.writing
      = os.flatMap fun o ↦ o.toEntry.writing := by
    rw [h.operations, List.flatMap_map]
  have hextensions : (t.extensions.flatMap fun v ↦ v.writing (some (lit "extensions")))
      = es.flatMap fun e ↦ (Value.extension e).writing (some (lit "extensions")) := by
    rw [h.extensions, List.flatMap_map]
  unfold writing header trailer
  rw [hlength, hoperations, hextensions]
  rfl

theorem Lists.undoes_normalForm {t : Transaction} {os : List Operation} {es : List Extension}
    (h : t.Lists os es) : Undoes Decoder.normalForm t.writing (t.normalForm os) := by
  have hnum := undoes_fixed_getD .u16 t.refBlockNum (some (lit "ref_block_num"))
  have hexpiration := undoes_fixed .u32 (v := .int t.expiration.seconds) rfl
    (some (lit "expiration"))
  have hcount := undoes_varint os.length (some (lit "operations"))
  have hoperations := undoes_many fun o (_ : o ∈ os) ↦ undoes_operation o
  have hlength : t.extensions.length = es.length := by
    rw [h.extensions, List.length_map]
  have hextensionCount := t.undoes_extensionsCall (lit "extensions")
  rw [hlength] at hextensionCount
  have hextensions := undoes_many fun e (_ : e ∈ es) ↦
    undoes_extension e (some (lit "extensions"))
  have hend : Reads (pure (⟨t.refBlockNum.integer?.getD 0,
      t.refBlockPrefix.integer?.getD 0 % 2 ^ 32, (t.expiration.seconds : Int).toNat,
      os.map Operation.normal, es.length⟩ : NormalForm)) [] (t.normalForm os) := by
    rw [← hlength]
    exact reads_pure _
  rw [h.writing_eq]
  apply hnum.bind
  apply (undoes_prefixCall t.refBlockPrefix).bind
  apply hexpiration.bind
  apply hcount.bind
  apply hoperations.bind
  apply hextensionCount.bind
  exact hextensions.bind_reads hend

/-- The chain and the normal form are read back from the wire form. -/
theorem Lists.decode?_of_encode {t : Transaction} {os : List Operation} {es : List Extension}
    (h : t.Lists os es) {chain b : Bytes} (hb : t.encode chain = .ok b) :
    NormalForm.decode? chain.length b = some (chain, t.normalForm os) := by
  obtain ⟨own, hown, rfl⟩ := encode_writing hb
  have hform : Reads Decoder.normalForm own (t.normalForm os) := h.undoes_normalForm own hown
  have hreads : Reads (signable chain.length) (chain ++ own) (chain, t.normalForm os) :=
    (reads_bytes chain).bind (hform.bind_nil (reads_pure _))
  have hrun := hreads []
  rw [List.append_nil] at hrun
  unfold NormalForm.decode?
  rw [hrun]

/-! ## From the normal form to the bytes -/

open Writing

theorem agrees_prefixCall {v v' : Value}
    (h : v.integer?.getD 0 % 2 ^ 32 = v'.integer?.getD 0 % 2 ^ 32) :
    Agrees [prefixCall v] [prefixCall v'] := by
  unfold prefixCall
  cases hv : v.integer? with
  | none =>
    intro b b' hb
    cases hb
  | some i =>
    cases hv' : v'.integer? with
    | none =>
      intro b b' _ hb'
      cases hb'
    | some i' =>
      rw [hv, hv'] at h
      have hvalue : (Value.int (i.emod (byteRange 4))).integer?.getD 0
          = (Value.int (i'.emod (byteRange 4))).integer?.getD 0 := h
      exact agrees_fixed .u32 hvalue _

theorem agrees_extensionsCall {t t' : Transaction} (h : t.extensions.length = t'.extensions.length)
    (field : Text) : Agrees [t.extensionsCall field] [t'.extensionsCall field] := by
  unfold extensionsCall
  by_cases hsize : t.extensionsHolder.hasSize
  · by_cases hsize' : t'.extensionsHolder.hasSize
    · rw [if_pos hsize, if_pos hsize', h]
      exact Agrees.refl _
    · rw [if_neg hsize']
      intro b b' _ hb'
      cases hb'
  · rw [if_neg hsize]
    intro b b' hb
    cases hb

/-- Extensions that can be written are zeros. -/
theorem eq_replicate_of_encode {es : List Extension} {field : Option Text} {b : Bytes}
    (h : Writing.encode (es.flatMap fun e ↦ (Value.extension e).writing field) = .ok b) :
    b = List.replicate es.length 0 := by
  induction es generalizing b with
  | nil =>
    cases h
    rfl
  | cons e rest ih =>
    rw [List.flatMap_cons] at h
    obtain ⟨own, behind, hown, hbehind, rfl⟩ := exists_of_encode_append h
    have hzero : e.typeId = 0 := by
      by_contra hne
      simp only [Value.writing, if_neg hne] at hown
      cases hown
    simp only [Value.writing, hzero, if_true] at hown
    have hbyte : own = [0] := by
      cases encode_of_encode_singleton hown
      rw [Int.toNat_zero, Varint.encode]
      rfl
    rw [hbyte, ih hbehind]
    rfl

theorem flatMap_writing_eq {os os' : List Operation}
    (h : os.map Operation.normal = os'.map Operation.normal) :
    (os.flatMap fun o ↦ o.toEntry.writing) = os'.flatMap fun o ↦ o.toEntry.writing := by
  induction os generalizing os' with
  | nil =>
    rw [List.map_nil, eq_comm, List.map_eq_nil_iff] at h
    rw [h]
  | cons o rest ih =>
    cases os' with
    | nil => cases h
    | cons o' rest' =>
      rw [List.map_cons, List.map_cons, List.cons.injEq] at h
      rw [List.flatMap_cons, List.flatMap_cons, Operation.writing_eq_of_normal h.1, ih h.2]

/-- Transactions with the same normal form are written alike. -/
theorem Lists.agrees {t t' : Transaction} {os os' : List Operation} {es es' : List Extension}
    (h : t.Lists os es) (h' : t'.Lists os' es') (hform : t.normalForm os = t'.normalForm os') :
    t.writing.Agrees t'.writing := by
  have hnum := agrees_fixed .u16 (congrArg NormalForm.refBlockNum hform)
    (some (lit "ref_block_num"))
  have hprefix := agrees_prefixCall (congrArg NormalForm.refBlockPrefix hform)
  have hexpiration : t.expiration.seconds = t'.expiration.seconds :=
    congrArg NormalForm.expiration hform
  have hoperations : os.map Operation.normal = os'.map Operation.normal :=
    congrArg NormalForm.operations hform
  have hcount : os.length = os'.length := by
    simpa only [List.length_map] using congrArg List.length hoperations
  have hextensions : t.extensions.length = t'.extensions.length :=
    congrArg NormalForm.extensions hform
  have hzeros : Agrees
      (es.flatMap fun e ↦ (Value.extension e).writing (some (lit "extensions")))
      (es'.flatMap fun e ↦ (Value.extension e).writing (some (lit "extensions"))) := by
    intro b b' hb hb'
    have hlength : es.length = es'.length := by
      simpa only [h.extensions, h'.extensions, List.length_map] using hextensions
    rw [eq_replicate_of_encode hb, eq_replicate_of_encode hb', hlength]
  rw [h.writing_eq, h'.writing_eq, hexpiration, hcount, flatMap_writing_eq hoperations]
  apply hnum.append
  apply hprefix.append
  apply (Agrees.refl _).append
  apply (Agrees.refl _).append
  apply (Agrees.refl _).append
  exact (agrees_extensionsCall hextensions _).append hzeros

/-- Transactions with the same normal form have the same wire form. -/
theorem Lists.encode_eq {t t' : Transaction} {os os' : List Operation} {es es' : List Extension}
    (h : t.Lists os es) (h' : t'.Lists os' es') (hform : t.normalForm os = t'.normalForm os')
    {chain b b' : Bytes} (hb : t.encode chain = .ok b) (hb' : t'.encode chain = .ok b') :
    b = b' := by
  obtain ⟨own, hown, rfl⟩ := encode_writing hb
  obtain ⟨own', hown', rfl⟩ := encode_writing hb'
  rw [h.agrees h' hform own own' hown hown']

/-! ## The wire form is unambiguous -/

/-- The chain and the normal form are read back from the wire form of every transaction that lists
checked operations and extensions.  Of two such transactions with chains of the same length, the
wire forms are equal exactly if the chains and the normal forms are. -/
theorem serialize_unambiguous :
    (∀ (t : Transaction) (os : List Operation) (es : List Extension) (chainId : Value)
        (chain b : Bytes),
      t.Lists os es → ChainId.bytesOf chainId = .ok chain → t.serialize chainId = .ok b →
      NormalForm.decode? chain.length b = some (chain, t.normalForm os)) ∧
    ∀ (t t' : Transaction) (os os' : List Operation) (es es' : List Extension)
      (chainId chainId' : Value) (chain chain' b b' : Bytes),
      t.Lists os es → t'.Lists os' es' →
      ChainId.bytesOf chainId = .ok chain → ChainId.bytesOf chainId' = .ok chain' →
      chain.length = chain'.length →
      t.serialize chainId = .ok b → t'.serialize chainId' = .ok b' →
      (b = b' ↔ chain = chain' ∧ t.normalForm os = t'.normalForm os') := by
  constructor
  · intro t os es chainId chain b h hchain hb
    exact h.decode?_of_encode (encode_of_serialize hchain hb)
  · intro t t' os os' es es' chainId chainId' chain chain' b b' h h' hchain hchain' hlength hb hb'
    have hfirst := encode_of_serialize hchain hb
    have hsecond := encode_of_serialize hchain' hb'
    have hform := h.decode?_of_encode hfirst
    have hform' := h'.decode?_of_encode hsecond
    constructor
    · rintro rfl
      rw [← hlength, hform, Option.some.injEq, Prod.mk.injEq] at hform'
      exact hform'
    · rintro ⟨rfl, hsame⟩
      exact h.encode_eq h' hsame hfirst hsecond

/-- The transaction of checked contents lists their operations and extensions. -/
theorem lists_toTransaction (c : Contents) : c.toTransaction.Lists c.operations c.extensions :=
  ⟨rfl, rfl⟩

/-- A document that two accounts sign. -/
def document (auths : List AccountName) : Contents :=
  { refBlockNum := 34294, refBlockPrefix := 3707022213, expiration := ⟨1451606400⟩
    operations := [.customJson ⟨[], auths, lit "follow", lit "[]"⟩], extensions := [⟨0⟩] }

/-- The accounts that sign a document may be named in any order and more than once. -/
theorem serialize_unambiguous_document :
    let alice : AccountName := ⟨lit "alice", by decide⟩
    let bob : AccountName := ⟨lit "bob", by decide⟩
    let first := document [alice, bob]
    let second := document [bob, alice, bob]
    ∃ b, first.toTransaction.serialize .null = .ok b ∧
      second.toTransaction.serialize .null = .ok b ∧
      NormalForm.decode? 0 b = some ([], first.toTransaction.normalForm first.operations) ∧
      first.toTransaction.normalForm first.operations
        = second.toTransaction.normalForm second.operations := by
  intro alice bob first second
  have hsome : (first.toTransaction.serialize .null).toOption.isSome = true := by
    decide +kernel
  have hsame : (second.toTransaction.serialize .null).toOption
      = (first.toTransaction.serialize .null).toOption := by
    decide +kernel
  obtain ⟨b, hb⟩ := Option.isSome_iff_exists.mp hsome
  have hfirst := eq_ok_of_toOption hb
  have hsecond := eq_ok_of_toOption (hsame.trans hb)
  have hchain : ChainId.bytesOf .null = .ok [] := rfl
  have hdecode := serialize_unambiguous.1 first.toTransaction first.operations first.extensions
    .null [] b (lists_toTransaction first) hchain hfirst
  have hiff := serialize_unambiguous.2 first.toTransaction second.toTransaction
    first.operations second.operations first.extensions second.extensions .null .null [] [] b b
    (lists_toTransaction first) (lists_toTransaction second) hchain hchain rfl hfirst hsecond
  exact ⟨b, hfirst, hsecond, hdecode, (hiff.mp rfl).2⟩

end Transaction

end GrapheneSigner
