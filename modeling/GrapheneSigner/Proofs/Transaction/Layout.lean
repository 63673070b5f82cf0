import GrapheneSigner.Proofs.Transaction.Contents
import GrapheneSigner.Proofs.Transaction.Header
import GrapheneSigner.Proofs.Wire.Layout

/-!
# The layout of transactions

What is written for a transaction, call by call, is a layout that can be computed from the
transaction at once: the chain, the header, one operation after the other, and the number of
extensions with as many zeros behind it.  The accounts that sign a document are laid out without
repetitions and in order.
-/

namespace GrapheneSigner

namespace Layout

/-- A symbol, filled up with zeros to seven bytes. -/
def symbol (s : AssetSymbol) : Bytes :=
  s.name.utf8 ++ List.replicate (7 - s.name.utf8.length) 0

/-- An asset: its amount, its precision and its symbol. -/
def asset (a : Asset) : Bytes := int 8 a.amount ++ [UInt8.ofNat a.precision] ++ symbol a.symbol

/-- A set of accounts: the number of distinct names, and the names in order. -/
def accounts (auths : List AccountName) : Bytes :=
  let names := (auths.map AccountName.name).dedup.mergeSort Text.atMost
  count names.length ++ names.flatMap text

def fields : Operation → Bytes
  | .vote v => text v.voter.name ++ text v.author.name ++ text v.permlink ++ int 2 v.weight
  | .transfer t =>
    text t.sender.name ++ text t.receiver.name ++ asset t.amount ++ text t.memo
  | .witnessVote w =>
    text w.account.name ++ text w.witness.name ++ [if w.approve then 1 else 0]
  | .customJson c =>
    accounts c.requiredAuths ++ accounts c.requiredPostingAuths ++ text c.id ++ text c.json

/-- An operation: its tag and its fields. -/
def operation (o : Operation) : Bytes := count o.kind.tag ++ fields o

/-- A transaction: its header, its operations, and a zero for each extension behind their number.
Of the block prefix there are 32 bits. -/
def transaction (refBlockNum refBlockPrefix : Int) (expiration : TimePoint)
    (operations : List Operation) (extensions : Nat) : Bytes :=
  int 2 refBlockNum ++ int 4 (refBlockPrefix % 2 ^ 32) ++ int 4 expiration.seconds
    ++ count operations.length ++ operations.flatMap operation
    ++ count extensions ++ List.replicate extensions 0

end Layout

open Writing

/-! ### Operations -/

theorem Value.laysOut_writing_account (a : AccountName) (field : Option Text) :
    ((Value.account a).writing field).LaysOut (Layout.text a.name) :=
  laysOut_chars a.name field

theorem Value.laysOut_writing_asset (a : Asset) (field : Option Text) :
    ((Value.asset a).writing field).LaysOut (Layout.asset a) := by
  have hamount := laysOut_fixed .i64 (v := .int a.amount) rfl field
  have hprecision := laysOut_fixed .u8 (v := .int a.precision) rfl field
  have hbyte : Layout.int 1 a.precision = [UInt8.ofNat a.precision] := by
    unfold Asset.precision
    cases a.symbol <;> rfl
  have hsymbol : a.symbol.wire = Layout.symbol a.symbol := by
    cases a.symbol <;> rfl
  rw [show WireInt.u8.width = 1 from rfl, hbyte] at hprecision
  have hwire : LaysOut [.ok (.raw (.bytes a.symbol.wire))] (Layout.symbol a.symbol) := by
    rw [← hsymbol]
    exact laysOut_raw a.symbol.wire
  exact (hamount.append hprecision).append hwire

theorem AccountSet.laysOut_writing (auths : List AccountName) (field : Text) :
    (writing (.list (auths.map .account)) field).LaysOut (Layout.accounts auths) := by
  obtain ⟨members, hmembers, _⟩ := Decoder.exists_accounts auths
  have hnames : (auths.map AccountName.name).dedup.mergeSort Text.atMost
      = members.map AccountName.name := by
    rw [hmembers, ofNames_eq_mergeSort]
  have hsize := laysOut_varint members.length (some field)
  have hall := laysOut_flatMap fun a (_ : a ∈ members) ↦
    Value.laysOut_writing_account a (some field)
  rw [Decoder.writing_accounts hmembers, Layout.accounts]
  rw [hnames, List.length_map, List.flatMap_map]
  exact hsize.append hall

namespace Operation

theorem laysOut_body (o : Operation) : o.toDraft.body.LaysOut (Layout.fields o) := by
  have haccount := Value.laysOut_writing_account
  have hset := AccountSet.laysOut_writing
  cases o with
  | vote v =>
    exact (((haccount _ _).append (haccount _ _)).append (laysOut_chars _ _)).append
      (laysOut_fixed .i16 (v := .int v.weight) rfl _)
  | transfer t =>
    exact (((haccount _ _).append (haccount _ _)).append
      (Value.laysOut_writing_asset _ _)).append (laysOut_chars _ _)
  | witnessVote w =>
    have happrove : LaysOut (Draft.truthCall "approve" (.bool w.approve))
        [if w.approve then 1 else 0] := by
      cases w.approve
      · exact laysOut_fixed .u8 (v := .int 0) rfl _
      · exact laysOut_fixed .u8 (v := .int 1) rfl _
    exact ((haccount _ _).append (haccount _ _)).append happrove
  | customJson c =>
    exact (((hset _ _).append (hset _ _)).append (laysOut_chars _ _)).append (laysOut_chars _ _)

theorem laysOut_writing (o : Operation) : o.toEntry.writing.LaysOut (Layout.operation o) := by
  rw [o.writing_toEntry]
  exact (laysOut_varint o.kind.tag _).append o.laysOut_body

end Operation

/-! ### Writers -/

/-- Whatever is written, and whether or not it is refused, the bytes before stay as they are. -/
theorem Writer.exists_bytes_write (w : Writer) (x : Writing) :
    ∃ more, (w.write x).1.bytes = w.bytes ++ more := by
  induction x generalizing w with
  | nil => exact ⟨[], (List.append_nil _).symm⟩
  | cons step rest ih =>
    cases step with
    | error failure => exact ⟨[], (List.append_nil _).symm⟩
    | ok call =>
      unfold write
      cases call.encode with
      | error failure => exact ⟨[], (List.append_nil _).symm⟩
      | ok bytes =>
        obtain ⟨more, hmore⟩ := ih ⟨w.bytes ++ bytes⟩
        exact ⟨bytes ++ more, by rw [hmore, List.append_assoc]⟩

theorem Writing.exists_encode_of_mem {α : Type} {as : List α} {write : α → Writing} {b : Bytes}
    (h : encode (as.flatMap write) = .ok b) : ∀ a ∈ as, ∃ own, encode (write a) = .ok own := by
  induction as generalizing b with
  | nil =>
    intro a ha
    cases ha
  | cons first rest ih =>
    rw [List.flatMap_cons] at h
    obtain ⟨own, behind, hown, hbehind, _⟩ := exists_of_encode_append h
    intro a ha
    rcases List.mem_cons.mp ha with rfl | ha
    · exact ⟨own, hown⟩
    · exact ih hbehind a ha

namespace Transaction

theorem laysOut_prefixCall {v : Value} {pre : Int} (h : v.integer? = some pre) :
    LaysOut [prefixCall v] (Layout.int 4 (pre % 2 ^ 32)) := by
  unfold prefixCall
  rw [h]
  exact laysOut_fixed .u32 (v := .int (pre % 2 ^ 32)) rfl _

theorem laysOut_extensionsCall (t : Transaction) (field : Text) :
    LaysOut [t.extensionsCall field] (Layout.count t.extensions.length) := by
  unfold extensionsCall
  by_cases hsize : t.extensionsHolder.hasSize
  · rw [if_pos hsize]
    exact laysOut_varint _ _
  · rw [if_neg hsize]
    intro b hb
    cases hb

/-- What a transaction writes that lists checked operations and extensions. -/
theorem Lists.laysOut_writing {t : Transaction} {os : List Operation} {es : List Extension}
    (h : t.Lists os es) {num pre : Int} (hnum : t.refBlockNum.integer? = some num)
    (hpre : t.refBlockPrefix.integer? = some pre) :
    t.writing.LaysOut (Layout.transaction num pre t.expiration os es.length) := by
  have hnumber := laysOut_fixed .u16 hnum (some (lit "ref_block_num"))
  have hexpiration := laysOut_fixed .u32 (v := .int t.expiration.seconds) rfl
    (some (lit "expiration"))
  have hcount := laysOut_varint os.length (some (lit "operations"))
  have hoperations := laysOut_flatMap fun o (_ : o ∈ os) ↦ o.laysOut_writing
  have hextensions := t.laysOut_extensionsCall (lit "extensions")
  have hzeros : LaysOut (es.flatMap fun e ↦ (Value.extension e).writing (some (lit "extensions")))
      (List.replicate es.length 0) :=
    fun _ ↦ eq_replicate_of_encode
  rw [h.extensions, List.length_map] at hextensions
  have hall := hnumber.append ((laysOut_prefixCall hpre).append (hexpiration.append
    (hcount.append (hoperations.append (hextensions.append hzeros)))))
  rw [h.writing_eq, Layout.transaction]
  simp only [List.append_assoc]
  exact hall

/-- What is known of a transaction that can be written. -/
theorem Lists.bounds_of_encode {t : Transaction} {os : List Operation} {es : List Extension}
    (h : t.Lists os es) {b : Bytes} (hb : t.writing.encode = .ok b) :
    (∃ num, t.refBlockNum.integer? = some num ∧ 0 ≤ num ∧ num < 2 ^ 16) ∧
      (∃ pre, t.refBlockPrefix.integer? = some pre) ∧ t.expiration.seconds < 2 ^ 32 ∧
      ∀ o ∈ os, o.toEntry.encode = .ok (Layout.operation o) := by
  rw [h.writing_eq] at hb
  obtain ⟨_, _, hnum, hb, _⟩ := exists_of_encode_append hb
  obtain ⟨_, _, hprefix, hb, _⟩ := exists_of_encode_append hb
  obtain ⟨_, _, hexpiration, hb, _⟩ := exists_of_encode_append hb
  obtain ⟨_, _, _, hb, _⟩ := exists_of_encode_append hb
  obtain ⟨_, _, hoperations, _, _⟩ := exists_of_encode_append hb
  refine ⟨?_, exists_integer_of_prefixCall hprefix, ?_, ?_⟩
  · obtain ⟨num, hinteger, hnonneg, hle, _⟩ :=
      Call.exists_of_encode_fixed (encode_of_encode_singleton hnum)
    rw [show WireInt.u16.greatest = 2 ^ 16 - 1 from rfl] at hle
    exact ⟨num, hinteger, hnonneg, by omega⟩
  · obtain ⟨_, hseconds, _, hle, _⟩ :=
      Call.exists_of_encode_fixed (encode_of_encode_singleton hexpiration)
    cases hseconds
    rw [show WireInt.u32.greatest = 2 ^ 32 - 1 from rfl] at hle
    omega
  · intro o ho
    obtain ⟨bytes, hbytes⟩ := exists_encode_of_mem hoperations o ho
    rw [o.encode_toEntry, hbytes, o.laysOut_writing bytes hbytes]

/-- The wire form is the layout of the network, part by part.  The bytes of an operation by itself
are its layout, and a writer that is told to write it appends just these bytes to what it holds;
what it holds stays as it is even if the operation is refused.  A signed transaction that lists
checked operations and extensions, and has a wire form behind a chain id, has the bytes of the
chain, its header, the bytes of the operations in order, and the number of its extensions with a
zero for each.  Signatures have no part in it. -/
theorem serialize_layout :
    (∀ (o : Operation) (w : Writer),
      (∃ more, (w.write o.toEntry.writing).1.bytes = w.bytes ++ more) ∧
      ∀ b, o.toEntry.encode = .ok b →
        b = Layout.operation o ∧ w.write o.toEntry.writing = (⟨w.bytes ++ b⟩, .ok ())) ∧
    (∀ (t : SignedTransaction) (os : List Operation) (es : List Extension) (chainId : Value)
        (b : Bytes),
      t.Lists os es → t.toTransaction.serialize chainId = .ok b →
      ∃ chain num pre, ChainId.bytesOf chainId = .ok chain ∧
        t.refBlockNum.integer? = some num ∧ t.refBlockPrefix.integer? = some pre ∧
        (0 ≤ num ∧ num < 2 ^ 16) ∧ t.expiration.seconds < 2 ^ 32 ∧
        b = chain ++ Layout.transaction num pre t.expiration os es.length ∧
        ∀ o ∈ os, o.toEntry.encode = .ok (Layout.operation o)) ∧
    ∀ (t : SignedTransaction) (signatures : List Value) (holder : Holder) (chainId : Value),
      { t with signatures, signaturesHolder := holder }.toTransaction.serialize chainId
        = t.toTransaction.serialize chainId := by
  refine ⟨?_, ?_, fun t signatures holder chainId ↦ rfl⟩
  · intro o w
    refine ⟨w.exists_bytes_write _, ?_⟩
    intro b hb
    rw [o.encode_toEntry] at hb
    exact ⟨o.laysOut_writing b hb, Writer.write_of_encode hb w⟩
  · intro t os es chainId b h hb
    obtain ⟨chain, hchain, hencode⟩ := exists_of_bind_eq_ok hb
    obtain ⟨own, hown, rfl⟩ := encode_writing hencode
    obtain ⟨⟨num, hnum, hrange⟩, ⟨pre, hpre⟩, hexpiration, hall⟩ := h.bounds_of_encode hown
    have hlayout := h.laysOut_writing hnum hpre own hown
    exact ⟨chain, num, pre, hchain, hnum, hpre, hrange, hexpiration, by rw [hlayout], hall⟩

/-- The document of two accounts that are named out of order and more than once, and a writer that
holds something already. -/
theorem serialize_layout_document :
    let alice : AccountName := ⟨lit "alice", by decide⟩
    let bob : AccountName := ⟨lit "bob", by decide⟩
    let contents := document [bob, alice, bob]
    ∃ b, contents.toTransaction.serialize .null = .ok b ∧
      b = Layout.transaction 34294 3707022213 ⟨1451606400⟩ contents.operations 1 ∧
      Layout.accounts [bob, alice, bob]
        = Layout.count 2 ++ (Layout.text (lit "alice") ++ Layout.text (lit "bob")) ∧
      ∀ o ∈ contents.operations,
        Writer.write ⟨[0xFF]⟩ o.toEntry.writing = (⟨0xFF :: Layout.operation o⟩, .ok ()) := by
  intro alice bob contents
  have hsome : (contents.toTransaction.serialize .null).toOption.isSome = true := by
    decide +kernel
  obtain ⟨b, hb⟩ := Option.isSome_iff_exists.mp hsome
  have hserialize := eq_ok_of_toOption hb
  let t : SignedTransaction := ⟨contents.toTransaction, [], .list⟩
  have hlists : t.Lists contents.operations contents.extensions := lists_toTransaction contents
  obtain ⟨chain, num, pre, hchain, hnum, hpre, _, _, hlayout, hoperations⟩ :=
    serialize_layout.2.1 t _ _ .null b hlists hserialize
  cases hchain
  cases hnum
  cases hpre
  have hnames : AccountSet.ofNames [lit "bob", lit "alice", lit "bob"]
      = [lit "alice", lit "bob"] := by
    decide +kernel
  have haccounts : Layout.accounts [bob, alice, bob]
      = Layout.count 2 ++ (Layout.text (lit "alice") ++ Layout.text (lit "bob")) := by
    rw [Layout.accounts, ← AccountSet.ofNames_eq_mergeSort,
      show [bob, alice, bob].map AccountName.name = [lit "bob", lit "alice", lit "bob"] from rfl,
      hnames]
    simp
  refine ⟨b, hserialize, hlayout, haccounts, ?_⟩
  intro o ho
  exact ((serialize_layout.1 o ⟨[0xFF]⟩).2 _ (hoperations o ho)).2

end Transaction

end GrapheneSigner
