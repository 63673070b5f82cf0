import Mathlib.Data.Finset.Dedup
import Mathlib.Data.Set.List
import GrapheneSigner.Operation.Entry
import GrapheneSigner.Proofs.Operation.AccountSet
import GrapheneSigner.Proofs.Wire.Decoder

/-!
# Operations read back

Checked operations are read back from what they write, and nothing is lost but the order and the
repetition of the accounts that sign a document: two documents are written alike exactly if these
accounts are the same.
-/

namespace GrapheneSigner

/-- An operation as it is on the wire, where the accounts that sign a document are sets. -/
inductive NormalOperation where
  | vote (v : Vote)
  | transfer (t : Transfer)
  | witnessVote (w : WitnessVote)
  | customJson (auths postingAuths : Finset AccountName) (id json : Text)
  deriving DecidableEq

/-- What an operation is on the wire. -/
def Operation.normal : Operation → NormalOperation
  | vote v => .vote v
  | transfer t => .transfer t
  | witnessVote w => .witnessVote w
  | customJson c =>
    .customJson c.requiredAuths.toFinset c.requiredPostingAuths.toFinset c.id c.json

/-- The vote of some fields, if its weight is in range. -/
def Vote.ofFields? (voter author : AccountName) (permlink : Text) (weight : Int) : Option Vote :=
  if h : -10000 ≤ weight ∧ weight ≤ 10000 then some ⟨voter, author, permlink, weight, h.1, h.2⟩
  else none

theorem Vote.ofFields?_fields (v : Vote) :
    ofFields? v.voter v.author v.permlink v.weight = some v :=
  dif_pos ⟨v.le_weight, v.weight_le⟩

/-- The transfer of some fields, if amount and memo are in order. -/
def Transfer.ofFields? (sender receiver : AccountName) (amount : Asset) (memo : Text) :
    Option Transfer :=
  if h : (0 < amount.amount ∧ amount.symbol ≠ .vesting) ∧
      memo.isEncodable = true ∧ memo.utf8.length < memoLimit then
    some ⟨sender, receiver, amount, memo, h.1.1, h.1.2, h.2.1, h.2.2⟩
  else none

theorem Transfer.ofFields?_fields (t : Transfer) :
    ofFields? t.sender t.receiver t.amount t.memo = some t :=
  dif_pos ⟨⟨t.amount_pos, t.amount_liquid⟩, t.memo_encodable, t.memo_short⟩

namespace AssetSymbol

theorem length_wire (s : AssetSymbol) : s.wire.length = 7 := by
  cases s <;> decide

theorem find?_wire (s : AssetSymbol) : all.find? (fun s' ↦ s'.wire = s.wire) = some s := by
  cases s <;> decide

end AssetSymbol

namespace Decoder

/-! ## Typed values -/

def account : Decoder AccountName := do
  let t ← chars
  (AccountName.read t).toOption

/-- An asset; its symbol says by itself how many decimal places there are. -/
def asset : Decoder Asset := do
  let amount ← int .i64
  let _ ← int .u8
  let wire ← bytes 7
  let symbol ← AssetSymbol.all.find? fun s ↦ s.wire = wire
  return ⟨amount, symbol⟩

def accounts : Decoder (Finset AccountName) := do
  let n ← varint
  let members ← many account n
  return members.toFinset

theorem undoes_account (a : AccountName) (field : Option Text) :
    Undoes account ((Value.account a).writing field) a := by
  have hread : AccountName.read a.name = .ok a := AccountName.read_eq_ok_iff.mpr rfl
  exact (undoes_chars a.name field).bind_reads (reads_lift (by rw [hread]; rfl))

theorem undoes_asset (a : Asset) (field : Option Text) :
    Undoes asset ((Value.asset a).writing field) a := by
  have hwire : Undoes (bytes 7) [.ok (.raw (.bytes a.symbol.wire))] a.symbol.wire := by
    rw [← a.symbol.length_wire]
    exact undoes_raw a.symbol.wire
  have hsymbol : Reads (do
      let symbol ← AssetSymbol.all.find? fun s ↦ s.wire = a.symbol.wire
      return (⟨a.amount, symbol⟩ : Asset)) [] a :=
    (reads_lift a.symbol.find?_wire).bind_nil (reads_pure a)
  apply (undoes_fixed .i64 (v := .int a.amount) rfl field).bind
  apply (undoes_fixed .u8 (v := .int a.precision) rfl field).bind
  exact hwire.bind_reads hsymbol

/-- The names of a list of accounts, when they are written, are names of accounts again. -/
theorem exists_accounts (auths : List AccountName) :
    ∃ members : List AccountName,
      members.map AccountName.name = AccountSet.ofNames (auths.map AccountName.name) ∧
      members.toFinset = auths.toFinset := by
  have hnames : ∀ name ∈ AccountSet.ofNames (auths.map AccountName.name),
      name ∈ Set.range AccountName.name := by
    intro name hname
    obtain ⟨a, _, rfl⟩ := List.mem_map.mp (AccountSet.mem_ofNames.mp hname)
    exact ⟨a, rfl⟩
  have hrange : AccountSet.ofNames (auths.map AccountName.name)
      ∈ Set.range (List.map AccountName.name) := by
    rw [Set.range_list_map]
    exact hnames
  obtain ⟨members, hmembers⟩ := hrange
  refine ⟨members, hmembers, ?_⟩
  have hinjective : Function.Injective AccountName.name := by
    intro a a' h
    exact AccountName.ext h
  ext a
  rw [List.mem_toFinset, List.mem_toFinset, ← List.mem_map_of_injective hinjective, hmembers,
    AccountSet.mem_ofNames, List.mem_map_of_injective hinjective]

theorem names_accounts (auths : List AccountName) :
    (Value.list (auths.map .account)).names = .ok (auths.map AccountName.name) := by
  unfold Value.names Value.collection?
  dsimp only
  induction auths with
  | nil => rfl
  | cons a rest ih =>
    rw [List.map_cons, Value.namesOf, ih]
    rfl

/-- A list of accounts is written as the number and the names of these members. -/
theorem writing_accounts {auths members : List AccountName}
    (h : members.map AccountName.name = AccountSet.ofNames (auths.map AccountName.name))
    (field : Text) :
    AccountSet.writing (.list (auths.map .account)) field
      = [.ok (.varint (.int members.length) (some field))]
        ++ members.flatMap fun a ↦ (Value.account a).writing (some field) := by
  unfold AccountSet.writing AccountSet.calls
  simp only [names_accounts, ← h]
  rw [List.length_map, List.map_cons, List.map_map, List.map_map]
  exact congrArg _ List.map_eq_flatMap

theorem undoes_accounts (auths : List AccountName) (field : Text) :
    Undoes accounts (AccountSet.writing (.list (auths.map .account)) field) auths.toFinset := by
  obtain ⟨members, hmembers, hset⟩ := exists_accounts auths
  rw [writing_accounts hmembers]
  have hmany : Undoes (many account members.length)
      (members.flatMap fun a ↦ (Value.account a).writing (some field)) members := by
    have hid := undoes_many fun a (_ : a ∈ members) ↦ undoes_account a (some field)
    rwa [List.map_id'] at hid
  exact (undoes_varint members.length (some field)).bind
    (hmany.bind_reads (by rw [hset]; exact reads_pure _))

/-! ## Operations -/

/-- The fields of an operation of some kind. -/
def fieldsOf : OperationKind → Decoder NormalOperation
  | .vote => do
    let voter ← account
    let author ← account
    let permlink ← chars
    let weight ← int .i16
    let v ← Vote.ofFields? voter author permlink weight
    return .vote v
  | .transfer => do
    let sender ← account
    let receiver ← account
    let amount ← asset
    let memo ← chars
    let t ← Transfer.ofFields? sender receiver amount memo
    return .transfer t
  | .witnessVote => do
    let voter ← account
    let witness ← account
    let approve ← int .u8
    return .witnessVote ⟨voter, witness, approve != 0⟩
  | .customJson => do
    let auths ← accounts
    let postingAuths ← accounts
    let id ← chars
    let json ← chars
    return .customJson auths postingAuths id json

/-- An operation behind the tag of its kind. -/
def operation : Decoder NormalOperation := do
  let tag ← varint
  let k ← OperationKind.ofTag? tag
  fieldsOf k

theorem undoes_vote (v : Vote) :
    Undoes (fieldsOf .vote) (Operation.vote v).toDraft.body (.vote v) := by
  have hend : Reads (do
      let v ← Vote.ofFields? v.voter v.author v.permlink v.weight
      return NormalOperation.vote v) [] (.vote v) :=
    (reads_lift v.ofFields?_fields).bind_nil (reads_pure _)
  have hweight := undoes_fixed .i16 (v := .int v.weight) rfl (some (lit "weight"))
  have hpermlink := undoes_chars v.permlink (some (lit "permlink"))
  simp only [Operation.toDraft, Draft.body, Draft.calls, List.append_assoc]
  apply (undoes_account v.voter (some (lit "voter"))).bind
  apply (undoes_account v.author (some (lit "author"))).bind
  apply hpermlink.bind
  exact hweight.bind_reads hend

theorem undoes_transfer (t : Transfer) :
    Undoes (fieldsOf .transfer) (Operation.transfer t).toDraft.body (.transfer t) := by
  have hend : Reads (do
      let t ← Transfer.ofFields? t.sender t.receiver t.amount t.memo
      return NormalOperation.transfer t) [] (.transfer t) :=
    (reads_lift t.ofFields?_fields).bind_nil (reads_pure _)
  have hmemo := undoes_chars t.memo (some (lit "memo"))
  simp only [Operation.toDraft, Draft.body, Draft.calls, List.append_assoc]
  apply (undoes_account t.sender (some (lit "from"))).bind
  apply (undoes_account t.receiver (some (lit "to"))).bind
  apply (undoes_asset t.amount (some (lit "amount"))).bind
  exact hmemo.bind_reads hend

theorem undoes_witnessVote (w : WitnessVote) :
    Undoes (fieldsOf .witnessVote) (Operation.witnessVote w).toDraft.body (.witnessVote w) := by
  have happrove := undoes_fixed .u8
    (v := .int (if (Value.bool w.approve).truthy then 1 else 0)) rfl (some (lit "approve"))
  have hend : Reads (pure (NormalOperation.witnessVote ⟨w.account, w.witness,
      (if (Value.bool w.approve).truthy then (1 : Int) else 0) != 0⟩)) [] (.witnessVote w) := by
    obtain ⟨account, witness, approve⟩ := w
    cases approve <;> exact reads_pure _
  simp only [Operation.toDraft, Draft.body, Draft.calls, List.append_assoc]
  apply (undoes_account w.account (some (lit "account"))).bind
  apply (undoes_account w.witness (some (lit "witness"))).bind
  exact happrove.bind_reads hend

theorem undoes_customJson (c : CustomJson) :
    Undoes (fieldsOf .customJson) (Operation.customJson c).toDraft.body
      (Operation.customJson c).normal := by
  have hid := undoes_chars c.id (some (lit "id"))
  have hjson := undoes_chars c.json (some (lit "json"))
  simp only [Operation.toDraft, Draft.body, Draft.calls, List.append_assoc]
  apply (undoes_accounts c.requiredAuths (lit "required_auths")).bind
  apply (undoes_accounts c.requiredPostingAuths (lit "required_posting_auths")).bind
  apply hid.bind
  exact hjson.bind_reads (reads_pure _)

theorem undoes_fieldsOf (o : Operation) :
    Undoes (fieldsOf o.kind) o.toDraft.body o.normal := by
  cases o with
  | vote v => exact undoes_vote v
  | transfer t => exact undoes_transfer t
  | witnessVote w => exact undoes_witnessVote w
  | customJson c => exact undoes_customJson c

/-- A checked operation is read back from its bytes. -/
theorem undoes_operation (o : Operation) : Undoes operation o.toEntry.writing o.normal := by
  have hkind : OperationKind.ofTag? o.kind.tag = some o.kind := by
    cases o <;> rfl
  have hwriting : o.toEntry.writing = [.ok o.kind.call] ++ ([] ++ o.toDraft.body) := by
    cases o <;> rfl
  rw [hwriting]
  have hfields : Undoes (do let k ← OperationKind.ofTag? o.kind.tag; fieldsOf k)
      ([] ++ o.toDraft.body) o.normal := by
    have hlift : Undoes (OperationKind.ofTag? o.kind.tag : Decoder OperationKind) [] o.kind := by
      intro b hb
      cases hb
      exact reads_lift hkind
    exact hlift.bind (undoes_fieldsOf o)
  exact (undoes_varint o.kind.tag _).bind hfields

end Decoder

/-! ## What is written alike -/

/-- Lists of the same accounts are written alike. -/
theorem AccountSet.writing_eq_of_toFinset {auths auths' : List AccountName}
    (h : auths.toFinset = auths'.toFinset) (field : Text) :
    writing (.list (auths.map .account)) field = writing (.list (auths'.map .account)) field := by
  have hnames : ofNames (auths.map AccountName.name) = ofNames (auths'.map AccountName.name) := by
    apply ofNames_eq_iff.mpr
    intro name
    have hmem : ∀ a, a ∈ auths ↔ a ∈ auths' := by
      intro a
      rw [← List.mem_toFinset, h, List.mem_toFinset]
    simp only [List.mem_map, hmem]
  unfold writing calls
  simp only [Decoder.names_accounts, hnames]

/-- Operations with the same normal form are written alike. -/
theorem Operation.writing_eq_of_normal {o o' : Operation} (h : o.normal = o'.normal) :
    o.toEntry.writing = o'.toEntry.writing := by
  cases o with
  | vote v =>
    cases o' with
    | vote v' =>
      cases h
      rfl
    | _ => cases h
  | transfer t =>
    cases o' with
    | transfer t' =>
      cases h
      rfl
    | _ => cases h
  | witnessVote w =>
    cases o' with
    | witnessVote w' =>
      cases h
      rfl
    | _ => cases h
  | customJson c =>
    cases o' with
    | customJson c' =>
      obtain ⟨auths, postingAuths, id, json⟩ := c
      obtain ⟨auths', postingAuths', id', json'⟩ := c'
      simp only [Operation.normal, NormalOperation.customJson.injEq] at h
      obtain ⟨hauths, hposting, rfl, rfl⟩ := h
      have hbody : (Operation.customJson ⟨auths, postingAuths, id, json⟩).toDraft.body
          = (Operation.customJson ⟨auths', postingAuths', id, json⟩).toDraft.body := by
        simp only [Operation.toDraft, Draft.body, Draft.calls,
          AccountSet.writing_eq_of_toFinset hauths, AccountSet.writing_eq_of_toFinset hposting]
      exact congrArg (OperationKind.customJson.writing {}) hbody
    | _ => cases h

end GrapheneSigner
