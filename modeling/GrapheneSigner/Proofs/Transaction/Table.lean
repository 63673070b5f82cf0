import GrapheneSigner.Proofs.Calendar.Reading
import GrapheneSigner.Proofs.Model.Asset
import GrapheneSigner.Proofs.Transaction.Layout

/-!
# The table form and the wire form

A transaction is shown to the network as a table and signed as bytes.  The table is read by rules of
its own: the name of an operation says which fields it has, accounts and amounts are texts, the
expiration is a time stamp, and lists of accounts are sets.  What is read from the table of a
transaction is its normal form, which is also what is read from its bytes.
-/

namespace GrapheneSigner

namespace Table

def field? (table : List (Text × Value)) (name : String) : Option Value :=
  Value.entry? table (lit name)

def account? : Value → Option AccountName
  | .chars t => (AccountName.read t).toOption
  | _ => none

def accounts? : Value → Option (Finset AccountName)
  | .list vs => (vs.mapM account?).map List.toFinset
  | _ => none

/-- An asset by its amount in decimal digits and its symbol. -/
def asset? : Value → Option Asset
  | .chars t => Asset.ofDecimal? t
  | _ => none

/-- The seconds from the epoch to a time. -/
def time? : Value → Option Nat
  | .chars t => Timestamp.iso? t
  | _ => none

def truth? : Value → Option Bool
  | .bool b => some b
  | _ => none

def list? : Value → Option (List Value)
  | .list vs => some vs
  | _ => none

/-- The kind of operation that the network knows by a name. -/
def kind? (name : Text) : Option OperationKind :=
  if name = lit "vote" then some .vote
  else if name = lit "transfer" then some .transfer
  else if name = lit "account_witness_vote" then some .witnessVote
  else if name = lit "custom_json" then some .customJson
  else none

def fields? (table : List (Text × Value)) : OperationKind → Option NormalOperation
  | .vote => do
    let voter ← account? (← field? table "voter")
    let author ← account? (← field? table "author")
    let permlink ← (← field? table "permlink").chars?
    let weight ← (← field? table "weight").integer?
    let v ← Vote.ofFields? voter author permlink weight
    return .vote v
  | .transfer => do
    let sender ← account? (← field? table "from")
    let receiver ← account? (← field? table "to")
    let amount ← asset? (← field? table "amount")
    let memo ← (← field? table "memo").chars?
    let t ← Transfer.ofFields? sender receiver amount memo
    return .transfer t
  | .witnessVote => do
    let account ← account? (← field? table "account")
    let witness ← account? (← field? table "witness")
    let approve ← truth? (← field? table "approve")
    return .witnessVote ⟨account, witness, approve⟩
  | .customJson => do
    let auths ← accounts? (← field? table "required_auths")
    let postingAuths ← accounts? (← field? table "required_posting_auths")
    let id ← (← field? table "id").chars?
    let json ← (← field? table "json").chars?
    return .customJson auths postingAuths id json

def operation? : Value → Option NormalOperation
  | .list [.chars name, .table table] => (kind? name).bind (fields? table)
  | _ => none

/-- A transaction.  Of the block prefix there are 32 bits, and of the extensions there is the
number. -/
def transaction? (table : List (Text × Value)) : Option NormalForm := do
  let refBlockNum ← (← field? table "ref_block_num").integer?
  let refBlockPrefix ← (← field? table "ref_block_prefix").integer?
  let expiration ← time? (← field? table "expiration")
  let operations ← (← list? (← field? table "operations")).mapM operation?
  let extensions ← list? (← field? table "extensions")
  return ⟨refBlockNum, refBlockPrefix % 2 ^ 32, expiration, operations, extensions.length⟩

/-- A list is mapped member by member if none of its members fails. -/
theorem mapM_map {m : Type → Type} [Monad m] [LawfulMonad m] {α β γ : Type} {f : α → β}
    {g : β → m γ} {h : α → γ} {as : List α} (hg : ∀ a ∈ as, g (f a) = pure (h a)) :
    (as.map f).mapM g = pure (as.map h) := by
  induction as with
  | nil => rfl
  | cons a rest ih =>
    have hfirst := hg a List.mem_cons_self
    have hrest := ih fun a' ha' ↦ hg a' (List.mem_cons_of_mem a ha')
    simp only [List.map_cons, List.mapM_cons, hfirst, hrest, pure_bind]

/-! ### Fields -/

theorem account?_name (a : AccountName) : account? (.chars a.name) = some a := by
  have hread : AccountName.read a.name = .ok a := AccountName.read_eq_ok_iff.mpr rfl
  rw [account?, hread]
  rfl

/-- The names of a list of accounts, as they are shown. -/
def names (auths : List AccountName) : Value := .list (auths.map fun a ↦ .chars a.name)

theorem accounts?_names (auths : List AccountName) :
    accounts? (names auths) = some auths.toFinset := by
  have hmembers := mapM_map fun a (_ : a ∈ auths) ↦ account?_name a
  rw [List.map_id'] at hmembers
  unfold accounts? names
  dsimp only
  rw [hmembers]
  rfl

theorem exportedAccounts_accounts (auths : List AccountName) :
    Value.exportedAccounts (.list (auths.map .account)) = .ok (names auths) := by
  have hmembers := mapM_map (g := Value.exportedAccount) (f := Value.account)
    (h := fun a ↦ .chars a.name) fun a (_ : a ∈ auths) ↦ rfl
  unfold Value.exportedAccounts names
  dsimp only
  rw [hmembers]
  rfl

/-! ### Operations -/

def form : Operation → List (Text × Value)
  | .vote v => [(lit "voter", .chars v.voter.name), (lit "author", .chars v.author.name),
      (lit "permlink", .chars v.permlink), (lit "weight", .int v.weight)]
  | .transfer t => [(lit "from", .chars t.sender.name), (lit "to", .chars t.receiver.name),
      (lit "amount", .chars t.amount.write), (lit "memo", .chars t.memo)]
  | .witnessVote w => [(lit "account", .chars w.account.name),
      (lit "witness", .chars w.witness.name), (lit "approve", .bool w.approve)]
  | .customJson c => [(lit "required_auths", names c.requiredAuths),
      (lit "required_posting_auths", names c.requiredPostingAuths), (lit "id", .chars c.id),
      (lit "json", .chars c.json)]

/-- An operation as it is shown: its name and its fields. -/
def pair (o : Operation) : Value :=
  .list [.chars (o.kind.name.map CodePoint.asciiLower), .table (form o)]

theorem kind?_name (k : OperationKind) : kind? (k.name.map CodePoint.asciiLower) = some k := by
  cases k <;> decide

/-- The amount of a payment that has a wire form has eight bytes, and therefore a written form. -/
theorem print_of_encode {t : Transfer} {b : Bytes}
    (h : (Operation.transfer t).toEntry.encode = .ok b) :
    t.amount.print = .ok t.amount.write := by
  rw [Operation.encode_toEntry, Operation.writing_toEntry] at h
  have hmem : .ok (.fixed .i64 (.int t.amount.amount) (some (lit "amount")))
      ∈ [.ok (.varint (.int (Operation.transfer t).kind.tag) (some (lit "operation_type")))]
        ++ (Operation.transfer t).toDraft.body := by
    simp [Operation.toDraft, Draft.body, Draft.calls, Value.writing]
  obtain ⟨own, hown⟩ := Writing.exists_encode_of_mem_call h hmem
  obtain ⟨i, hi, hlow, hhigh, _⟩ := Call.exists_of_encode_fixed hown
  cases hi
  rw [show WireInt.i64.least = -2 ^ 63 from rfl] at hlow
  rw [show WireInt.i64.greatest = 2 ^ 63 - 1 from rfl] at hhigh
  exact Asset.print_of_isWritable (Numeral.isWritable_of_lt (by omega))

/-- An operation that has a wire form is shown with all of its fields. -/
theorem exported_toDraft {o : Operation} {b : Bytes} (h : o.toEntry.encode = .ok b) :
    o.toDraft.exported = .ok (.table (form o)) := by
  cases o with
  | transfer t =>
    have hamount : Value.exportedAsset (.asset t.amount) = .ok (.chars t.amount.write) := by
      rw [Value.exportedAsset, Value.plain, print_of_encode h]
      rfl
    simp only [Operation.toDraft, Draft.exported, Draft.forms, Draft.form, hamount]
    rfl
  | customJson c =>
    simp only [Operation.toDraft, Draft.exported, Draft.forms, Draft.form,
      exportedAccounts_accounts]
    rfl
  | _ => rfl

theorem toPair_toEntry {o : Operation} {b : Bytes} (h : o.toEntry.encode = .ok b) :
    o.toEntry.toPair = .ok (pair o) := by
  have hkind : o.toEntry.toPair = o.toDraft.exported.map fun form ↦
      .list [.chars (o.kind.name.map CodePoint.asciiLower), form] := by
    cases o <;> rfl
  rw [hkind, exported_toDraft h]
  rfl

/-- The fields that are shown for an operation are the fields of the operation. -/
theorem fields?_form (o : Operation) : fields? (form o) o.kind = some o.normal := by
  -- each field is found under its name; what is left is to read it
  cases o with
  | vote v =>
    have hfields : fields? (form (.vote v)) .vote = (do
        let voter ← account? (.chars v.voter.name)
        let author ← account? (.chars v.author.name)
        let v ← Vote.ofFields? voter author v.permlink v.weight
        return .vote v) := rfl
    rw [Operation.kind, hfields, account?_name, account?_name]
    simp only [Option.bind_eq_bind, Option.bind_some, v.ofFields?_fields]
    rfl
  | transfer t =>
    have hfields : fields? (form (.transfer t)) .transfer = (do
        let sender ← account? (.chars t.sender.name)
        let receiver ← account? (.chars t.receiver.name)
        let amount ← asset? (.chars t.amount.write)
        let t ← Transfer.ofFields? sender receiver amount t.memo
        return .transfer t) := rfl
    rw [Operation.kind, hfields, account?_name, account?_name, asset?, t.amount.ofDecimal?_write]
    simp only [Option.bind_eq_bind, Option.bind_some, t.ofFields?_fields]
    rfl
  | witnessVote w =>
    have hfields : fields? (form (.witnessVote w)) .witnessVote = (do
        let account ← account? (.chars w.account.name)
        let witness ← account? (.chars w.witness.name)
        return .witnessVote ⟨account, witness, w.approve⟩) := rfl
    rw [Operation.kind, hfields, account?_name, account?_name]
    rfl
  | customJson c =>
    have hfields : fields? (form (.customJson c)) .customJson = (do
        let auths ← accounts? (names c.requiredAuths)
        let postingAuths ← accounts? (names c.requiredPostingAuths)
        return .customJson auths postingAuths c.id c.json) := rfl
    rw [Operation.kind, hfields, accounts?_names, accounts?_names]
    rfl

theorem operation?_pair (o : Operation) : operation? (pair o) = some o.normal := by
  unfold operation? pair
  dsimp only
  rw [kind?_name, Option.bind_some, fields?_form]

end Table

namespace Transaction

/-- What is shown of a transaction with these operations and extensions. -/
def shown (t : Transaction) (os : List Operation) (es : List Extension) : List (Text × Value) :=
  [(lit "ref_block_num", t.refBlockNum), (lit "ref_block_prefix", t.refBlockPrefix),
    (lit "expiration", .chars (Timestamp.Parts.ofSeconds t.expiration.seconds).write),
    (lit "operations", .list (os.map Table.pair)),
    (lit "extensions", .list (es.map Value.extensionTable))]

theorem Lists.toTable_eq {t : Transaction} {os : List Operation} {es : List Extension}
    (h : t.Lists os es) (hexpiration : t.expiration.seconds ≤ TimePoint.lastStamped)
    (hall : ∀ o ∈ os, o.toEntry.encode = .ok (Layout.operation o)) :
    t.toTable = .ok (t.shown os es) := by
  have hoperations := Table.mapM_map fun o ho ↦ Table.toPair_toEntry (hall o ho)
  have hextensions := Table.mapM_map (f := Value.extension) (g := extensionForm)
    (h := Value.extensionTable) fun e (_ : e ∈ es) ↦ rfl
  unfold toTable
  rw [TimePoint.stamp_eq hexpiration, h.operations, h.extensions, hoperations, hextensions]
  rfl

theorem field?_shown (t : Transaction) (os : List Operation) (es : List Extension)
    (signatures : Value) :
    let table := t.shown os es ++ [(lit "signatures", signatures)]
    Table.field? table "ref_block_num" = some t.refBlockNum ∧
      Table.field? table "ref_block_prefix" = some t.refBlockPrefix ∧
      Table.field? table "expiration"
        = some (.chars (Timestamp.Parts.ofSeconds t.expiration.seconds).write) ∧
      Table.field? table "operations" = some (.list (os.map Table.pair)) ∧
      Table.field? table "extensions" = some (.list (es.map Value.extensionTable)) :=
  ⟨rfl, rfl, rfl, rfl, rfl⟩

/-- What is shown of a transaction, with the signatures behind it, stands for its normal form. -/
theorem Lists.transaction?_shown {t : Transaction} {os : List Operation} {es : List Extension}
    (h : t.Lists os es) {num pre : Int} (hnum : t.refBlockNum.integer? = some num)
    (hpre : t.refBlockPrefix.integer? = some pre)
    (hexpiration : t.expiration.seconds ≤ TimePoint.lastStamped) (signatures : Value) :
    Table.transaction? (t.shown os es ++ [(lit "signatures", signatures)])
      = some (t.normalForm os) := by
  have hoperations := Table.mapM_map fun o (_ : o ∈ os) ↦ Table.operation?_pair o
  obtain ⟨hnumField, hpreField, hexpirationField, hoperationsField, hextensionsField⟩ :=
    t.field?_shown os es signatures
  unfold Table.transaction?
  rw [hnumField, hpreField, hexpirationField, hoperationsField, hextensionsField]
  simp only [Option.bind_eq_bind, Option.bind_some, Table.time?, Table.list?, hnum, hpre,
    Timestamp.iso?_ofSeconds hexpiration, hoperations]
  rw [normalForm, hnum, hpre, h.extensions, List.length_map, List.length_map]
  rfl

/-- The table and the bytes of a transaction describe the same transaction.  A signed transaction
that lists checked operations and extensions, and has a wire form, also has a table; what the table
stands for by the rules of the network is the normal form that is read back from the bytes. -/
theorem table_agrees_with_wire (t : SignedTransaction) (os : List Operation) (es : List Extension)
    (chainId : Value) (b : Bytes) (h : t.Lists os es)
    (hb : t.toTransaction.serialize chainId = .ok b) :
    ∃ chain table form, ChainId.bytesOf chainId = .ok chain ∧ t.toTable = .ok table ∧
      Table.transaction? table = some form ∧
      NormalForm.decode? chain.length b = some (chain, form) := by
  obtain ⟨chain, hchain, hencode⟩ := exists_of_bind_eq_ok hb
  obtain ⟨own, hown, _⟩ := encode_writing hencode
  obtain ⟨⟨num, hnum, _⟩, ⟨pre, hpre⟩, hexpiration, hall⟩ := h.bounds_of_encode hown
  have hstamped : t.expiration.seconds ≤ TimePoint.lastStamped := by
    unfold TimePoint.lastStamped
    omega
  have htable : t.toTable = .ok (t.shown os es ++ [(lit "signatures", .list t.signatures)]) := by
    rw [SignedTransaction.toTable, h.toTable_eq hstamped hall]
    rfl
  exact ⟨chain, _, t.normalForm os, hchain, htable,
    h.transaction?_shown hnum hpre hstamped _, h.decode?_of_encode hencode⟩

/-- A payment whose amount is shown with three decimal places, with its signature. -/
theorem table_agrees_with_wire_payment :
    let alice : AccountName := ⟨lit "alice", by decide⟩
    let bob : AccountName := ⟨lit "bob", by decide⟩
    let payment : Transfer :=
      { sender := alice, receiver := bob, amount := ⟨1500, .liquid⟩, memo := lit "rent"
        amount_pos := by decide, amount_liquid := by decide, memo_encodable := by decide
        memo_short := by decide }
    let contents : Contents :=
      { document [] with operations := [.transfer payment] }
    let t : SignedTransaction := ⟨contents.toTransaction, [.chars (lit "1f")], .list⟩
    payment.amount.write = lit "1.500 STEEM" ∧
      ∃ b table form, t.toTransaction.serialize .null = .ok b ∧ t.toTable = .ok table ∧
        Table.transaction? table = some form ∧ NormalForm.decode? 0 b = some ([], form) := by
  intro alice bob payment contents t
  have hsome : (t.toTransaction.serialize .null).toOption.isSome = true := by
    decide +kernel
  obtain ⟨b, hb⟩ := Option.isSome_iff_exists.mp hsome
  have hserialize := eq_ok_of_toOption hb
  have hlists : t.Lists contents.operations contents.extensions := lists_toTransaction contents
  obtain ⟨chain, table, form, hchain, htable, hread, hdecode⟩ :=
    table_agrees_with_wire t _ _ .null b hlists hserialize
  cases hchain
  exact ⟨by decide +kernel, b, table, form, hserialize, htable, hread, hdecode⟩

end Transaction

end GrapheneSigner
