import Mathlib.Algebra.Group.Int.Defs
import GrapheneSigner.Proofs.Model.AccountName
import GrapheneSigner.Proofs.Network.ChainId
import GrapheneSigner.Proofs.Transaction.Contents
import GrapheneSigner.Transaction.Intake

/-!
# Faults in layout order

Whether checked contents have a wire form can be told field by field, and so can what is reported if
they have none: the first field in layout order that cannot be written.  The checks of an operation
leave four such fields.  The names of accounts, the memo, the weight and the approval can always be
written, and of the block prefix there are 32 bits of any number.  If the first field holds an
integer that has too many digits for a text, the report on the field is lost.
-/

namespace GrapheneSigner

open Writing

/-! ### Operations -/

theorem Value.blames_writing_account (a : AccountName) (field : Text) :
    Blames ((Value.account a).writing (some field)).encode [] := by
  have hname := blames_call (Call.blames_chars a.name field)
  rwa [blameUnless_eq_nil_iff.mpr a.isEncodable_name] at hname

/-- A positive amount fits unless it is too great. -/
theorem Value.blames_writing_asset {a : Asset} (hpos : 0 < a.amount) (field : Text) :
    Blames ((Value.asset a).writing (some field)).encode
      (blameUnless (a.amount < 2 ^ 63) ⟨field, some a.amount⟩) := by
  have hfits : WireInt.i64.least ≤ a.amount ∧ a.amount ≤ WireInt.i64.greatest ↔
      a.amount < 2 ^ 63 := by
    rw [show WireInt.i64.least = -2 ^ 63 from rfl, show WireInt.i64.greatest = 2 ^ 63 - 1 from rfl]
    omega
  have hsmall : WireInt.u8.least ≤ (a.precision : Int) ∧
      (a.precision : Int) ≤ WireInt.u8.greatest := by
    unfold Asset.precision
    cases a.symbol <;> decide
  have hamount := blames_call (Call.blames_fixed .i64 a.amount field)
  have hprecision := blames_call (Call.blames_fixed .u8 a.precision field)
  have hwire : Blames (encode [.ok (.raw (.bytes a.symbol.wire))]) [] :=
    blames_of_exists_ok ⟨_, rfl⟩
  simp only [hfits] at hamount
  rw [blameUnless_eq_nil_iff.mpr hsmall] at hprecision
  have hall := blames_append hamount (blames_append hprecision hwire)
  rwa [List.append_nil, List.append_nil] at hall

theorem AccountSet.blames_writing {auths : List AccountName} (hlength : auths.length < 2 ^ 64)
    (field : Text) : Blames (writing (.list (auths.map .account)) field).encode [] := by
  obtain ⟨members, hmembers, _⟩ := Decoder.exists_accounts auths
  have hcount : members.length < 2 ^ 64 := by
    have hle := length_ofNames_le (auths.map AccountName.name)
    rw [← hmembers, List.length_map, List.length_map] at hle
    exact Nat.lt_of_le_of_lt hle hlength
  have hsize := blames_call (Call.blames_varint members.length field)
  have hnames := blames_flatMap fun a (_ : a ∈ members) ↦ Value.blames_writing_account a field
  have hnobody : (members.flatMap fun _ ↦ ([] : List Blame)) = [] :=
    List.flatMap_eq_nil_iff.mpr fun _ _ ↦ rfl
  rw [blameUnless_eq_nil_iff.mpr hcount] at hsize
  rw [hnobody] at hnames
  rw [Decoder.writing_accounts hmembers]
  exact blames_append hsize hnames

namespace Operation

/-- What is to blame for an operation that has no bytes. -/
def faults : Operation → List Blame
  | vote v => blameUnless (v.permlink.isEncodable = true) { field := lit "permlink" }
  | transfer t => blameUnless (t.amount.amount < 2 ^ 63) ⟨lit "amount", some t.amount.amount⟩
  | witnessVote _ => []
  | customJson c =>
    blameUnless (c.id.isEncodable = true) { field := lit "id" }
      ++ blameUnless (c.json.isEncodable = true) { field := lit "json" }

/-- The lists of accounts are no longer than a count can say, as all lists in a memory are. -/
def IsSized : Operation → Prop
  | customJson c => c.requiredAuths.length < 2 ^ 64 ∧ c.requiredPostingAuths.length < 2 ^ 64
  | _ => True

theorem blames_body {o : Operation} (hsized : o.IsSized) :
    Blames o.toDraft.body.encode o.faults := by
  have haccount := Value.blames_writing_account
  cases o with
  | vote v =>
    have hpermlink := blames_call (Call.blames_chars v.permlink (lit "permlink"))
    have hweight := blames_call (Call.blames_fixed .i16 v.weight (lit "weight"))
    have hfits : WireInt.i16.least ≤ v.weight ∧ v.weight ≤ WireInt.i16.greatest := by
      have hlow := v.le_weight
      have hhigh := v.weight_le
      rw [show WireInt.i16.least = -2 ^ 15 from rfl,
        show WireInt.i16.greatest = 2 ^ 15 - 1 from rfl]
      omega
    rw [blameUnless_eq_nil_iff.mpr hfits] at hweight
    have hall := blames_append (blames_append (blames_append (haccount v.voter (lit "voter"))
      (haccount v.author (lit "author"))) hpermlink) hweight
    rwa [List.append_nil] at hall
  | transfer t =>
    have hamount := Value.blames_writing_asset t.amount_pos (lit "amount")
    have hmemo := blames_call (Call.blames_chars t.memo (lit "memo"))
    rw [blameUnless_eq_nil_iff.mpr t.memo_encodable] at hmemo
    have hall := blames_append (blames_append (blames_append (haccount t.sender (lit "from"))
      (haccount t.receiver (lit "to"))) hamount) hmemo
    rwa [List.append_nil] at hall
  | witnessVote w =>
    have happrove : Blames (encode (Draft.truthCall "approve" (.bool w.approve))) [] := by
      cases w.approve <;> exact blames_of_exists_ok ⟨_, rfl⟩
    exact blames_append (blames_append (haccount w.account (lit "account"))
      (haccount w.witness (lit "witness"))) happrove
  | customJson c =>
    have hid := blames_call (Call.blames_chars c.id (lit "id"))
    have hjson := blames_call (Call.blames_chars c.json (lit "json"))
    exact blames_append (blames_append (blames_append
      (AccountSet.blames_writing hsized.1 (lit "required_auths"))
      (AccountSet.blames_writing hsized.2 (lit "required_posting_auths"))) hid) hjson

/-- The tag of an operation can always be written. -/
theorem blames_writing {o : Operation} (hsized : o.IsSized) :
    Blames o.toEntry.writing.encode o.faults := by
  have htag := blames_call (Call.blames_varint o.kind.tag (lit "operation_type"))
  have hsmall : o.kind.tag < 2 ^ 64 := by
    cases o.kind <;> decide
  rw [blameUnless_eq_nil_iff.mpr hsmall] at htag
  rw [o.writing_toEntry]
  exact blames_append htag (blames_body hsized)

/-- The fields that can be to blame for a checked operation. -/
theorem mem_of_mem_faults {o : Operation} {b : Blame} (h : b ∈ o.faults) :
    b.field ∈ [lit "permlink", lit "amount", lit "id", lit "json"] := by
  cases o with
  | vote v => simp [eq_of_mem_blameUnless h]
  | transfer t => simp [eq_of_mem_blameUnless h]
  | witnessVote w => cases h
  | customJson c => rcases List.mem_append.mp h with h | h <;> simp [eq_of_mem_blameUnless h]

theorem ne_nil_of_mem_faults {o : Operation} {b : Blame} (h : b ∈ o.faults) : b.field ≠ [] := by
  have hmem := mem_of_mem_faults h
  intro hnil
  rw [hnil] at hmem
  revert hmem
  decide

/-- The path of a field of operation number `i`. -/
def pathOf (i : Nat) (field : Text) : Text := lit "operations[" ++ Text.ofNat i ++ lit "]." ++ field

/-- What is to blame for operations, the first of which has number `i`. -/
def faultsFrom (i : Nat) : List Operation → List Blame
  | [] => []
  | o :: rest => o.faults.map (Blame.under (pathOf i)) ++ faultsFrom (i + 1) rest

theorem faultsFrom_eq_nil_iff {i : Nat} {os : List Operation} :
    faultsFrom i os = [] ↔ ∀ o ∈ os, o.faults = [] := by
  induction os generalizing i with
  | nil => simp [faultsFrom]
  | cons o rest ih => simp [faultsFrom, ih]

end Operation

namespace Transaction

theorem operationPath_eq (i : Nat) {field : Text} (h : field ≠ []) :
    operationPath i (some field) = Operation.pathOf i field := by
  obtain ⟨c, rest, rfl⟩ := List.exists_cons_of_ne_nil h
  have hpoint : lit "]." = lit "]" ++ lit "." := rfl
  unfold operationPath Operation.pathOf
  rw [hpoint]
  simp only [List.append_assoc]

/-- What is reported of a field of an operation names the operation, if it names the field. -/
theorem reports_operationFailure (i : Nat) {o : Operation} {b : Blame} {failure : Failure}
    (hmem : b ∈ o.faults) (h : b.Reports failure) :
    (b.under (Operation.pathOf i)).Reports (operationFailure i o.toEntry failure) := by
  have hsame : (b.under (Operation.pathOf i)).isMute = b.isMute := rfl
  cases hmute : b.isMute with
  | true =>
    rw [h.eq_overlong hmute]
    exact Blame.reports_overlong (hsame.trans hmute)
  | false =>
    obtain ⟨fault, rfl, hkind, hfield⟩ := h.exists_fault hmute
    unfold operationFailure
    dsimp only
    rw [if_pos hkind, o.title_toEntry]
    refine Blame.reports_own (hsame.trans hmute) rfl ?_
    rw [hfield]
    exact congrArg some (operationPath_eq i (Operation.ne_nil_of_mem_faults hmem))

theorem encodeOperations_cons (i : Nat) (e : Entry) (rest : List Entry) :
    encodeOperations i (e :: rest) = (e.writing.encode.mapError (operationFailure i e)).bind
      fun bytes ↦ (encodeOperations (i + 1) rest).map (bytes ++ ·) := by
  rw [encodeOperations]
  cases e.writing.encode with
  | error failure => rfl
  | ok bytes => cases encodeOperations (i + 1) rest <;> rfl

theorem blames_encodeOperations {i : Nat} {os : List Operation} (hsized : ∀ o ∈ os, o.IsSized) :
    Blames (encodeOperations i (os.map Operation.toEntry)) (Operation.faultsFrom i os) := by
  induction os generalizing i with
  | nil => exact .nobody []
  | cons o rest ih =>
    have hfirst := Operation.blames_writing (hsized o List.mem_cons_self)
    have hrest := ih (i := i + 1) fun o' ho' ↦ hsized o' (List.mem_cons_of_mem _ ho')
    rw [List.map_cons, encodeOperations_cons]
    apply (hfirst.mapError fun b failure hmem ↦ reports_operationFailure i hmem).bind
    intro bytes _
    exact hrest.map (bytes ++ ·)

end Transaction

namespace Contents

/-- The lists are no longer than a count can say, as all lists in a memory are. -/
structure IsSized (c : Contents) : Prop where
  operations : c.operations.length < 2 ^ 64
  accounts : ∀ o ∈ c.operations, o.IsSized
  extensions : c.extensions.length < 2 ^ 64

/-- What is to blame for a header that cannot be written. -/
def headerFaults (c : Contents) : List Blame :=
  blameUnless (c.refBlockNum ≤ 65535) ⟨lit "ref_block_num", some c.refBlockNum⟩
    ++ blameUnless (c.expiration.seconds < 2 ^ 32) ⟨lit "expiration", some c.expiration.seconds⟩

/-- What is to blame for extensions that cannot be written. -/
def extensionFaults (c : Contents) : List Blame :=
  c.extensions.flatMap fun e ↦ blameUnless (e.typeId = 0) ⟨lit "extensions", some e.typeId⟩

/-- What is to blame for contents that have no wire form, in layout order. -/
def wireFaults (c : Contents) : List Blame :=
  c.headerFaults ++ (Operation.faultsFrom 0 c.operations ++ c.extensionFaults)

/-- What is to blame for contents that have no wire form behind a chain id, in layout order. -/
def faults (c : Contents) (chainId : Value) : List Blame := ChainId.faults chainId ++ c.wireFaults

theorem blames_header {c : Contents} (hsized : c.IsSized) :
    Blames c.toTransaction.header.encode c.headerFaults := by
  have hnum := blames_call (Call.blames_fixed .u16 c.refBlockNum (lit "ref_block_num"))
  have hprefix := blames_call (Call.blames_fixed .u32
    ((c.refBlockPrefix : Int).emod (byteRange 4)) (lit "ref_block_prefix"))
  have hexpiration := blames_call (Call.blames_fixed .u32 c.expiration.seconds (lit "expiration"))
  have hcount := blames_call (Call.blames_varint c.operations.length (lit "operations"))
  have hgreatest : WireInt.u32.greatest = 2 ^ 32 - 1 := rfl
  have hnumFits : WireInt.u16.least ≤ (c.refBlockNum : Int) ∧
      (c.refBlockNum : Int) ≤ WireInt.u16.greatest ↔ c.refBlockNum ≤ 65535 := by
    rw [show WireInt.u16.least = 0 from rfl, show WireInt.u16.greatest = 65535 from rfl]
    omega
  have hprefixFits : WireInt.u32.least ≤ (c.refBlockPrefix : Int).emod (byteRange 4) ∧
      (c.refBlockPrefix : Int).emod (byteRange 4) ≤ WireInt.u32.greatest := by
    have hemod : (c.refBlockPrefix : Int).emod (byteRange 4) = (c.refBlockPrefix : Int) % 2 ^ 32 :=
      rfl
    rw [hemod, show WireInt.u32.least = 0 from rfl, hgreatest]
    omega
  have hexpirationFits : WireInt.u32.least ≤ (c.expiration.seconds : Int) ∧
      (c.expiration.seconds : Int) ≤ WireInt.u32.greatest ↔ c.expiration.seconds < 2 ^ 32 := by
    rw [show WireInt.u32.least = 0 from rfl, hgreatest]
    omega
  have hheader : c.toTransaction.header
      = [.ok (.fixed .u16 (.int c.refBlockNum) (some (lit "ref_block_num")))]
        ++ ([.ok (.fixed .u32 (.int ((c.refBlockPrefix : Int).emod (byteRange 4)))
            (some (lit "ref_block_prefix")))]
          ++ ([.ok (.fixed .u32 (.int c.expiration.seconds) (some (lit "expiration")))]
            ++ [.ok (.varint (.int c.operations.length) (some (lit "operations")))])) := by
    have hlength : c.toTransaction.operations.length = c.operations.length := List.length_map _
    unfold Transaction.header
    rw [hlength]
    rfl
  simp only [hnumFits] at hnum
  rw [blameUnless_eq_nil_iff.mpr hprefixFits] at hprefix
  simp only [hexpirationFits] at hexpiration
  rw [blameUnless_eq_nil_iff.mpr hsized.operations] at hcount
  have hall := blames_append hnum (blames_append hprefix (blames_append hexpiration hcount))
  rw [List.append_nil, List.nil_append] at hall
  rwa [hheader]

theorem blames_trailer {c : Contents} (hsized : c.IsSized) :
    Blames c.toTransaction.trailer.encode c.extensionFaults := by
  have hcount := blames_call (Call.blames_varint c.extensions.length (lit "extensions"))
  have hextension (e : Extension) :
      Blames ((Value.extension e).writing (some (lit "extensions"))).encode
        (blameUnless (e.typeId = 0) ⟨lit "extensions", some e.typeId⟩) := by
    unfold Value.writing blameUnless
    dsimp only
    by_cases hzero : e.typeId = 0
    · rw [if_pos hzero, if_pos hzero, hzero]
      exact blames_of_exists_ok ⟨_, rfl⟩
    · rw [if_neg hzero, if_neg hzero, Writing.encode, Value.unsupported]
      exact .first (Blame.reports_showing (fun _ ↦ rfl) (fun _ ↦ rfl) fun _ ↦ rfl)
  have htrailer : c.toTransaction.trailer
      = [.ok (.varint (.int c.extensions.length) (some (lit "extensions")))]
        ++ c.extensions.flatMap fun e ↦
          (Value.extension e).writing (some (lit "extensions")) := by
    have htrailer : c.toTransaction.trailer
        = .ok (.varint (.int (c.extensions.map Value.extension).length) (some (lit "extensions")))
          :: (c.extensions.map Value.extension).flatMap
            fun v ↦ v.writing (some (lit "extensions")) := rfl
    rw [htrailer, List.flatMap_map, List.length_map]
    rfl
  rw [blameUnless_eq_nil_iff.mpr hsized.extensions] at hcount
  rw [htrailer]
  exact blames_append hcount (blames_flatMap fun e _ ↦ hextension e)

/-- Behind the bytes of a chain, checked contents fail for the first fault in layout order. -/
theorem blames_encode {c : Contents} (hsized : c.IsSized) (chain : Bytes) :
    Blames (c.toTransaction.encode chain) c.wireFaults := by
  apply (blames_header hsized).bind
  intro header _
  apply (Transaction.blames_encodeOperations hsized.accounts).bind
  intro operations _
  rw [← List.append_nil c.extensionFaults]
  apply (blames_trailer hsized).bind
  intro trailer _
  rw [c.spoilt?_toTransaction]
  exact .nobody _

theorem blames_digest {c : Contents} (hsized : c.IsSized) (chain : Bytes) :
    Blames (c.toTransaction.digest chain) c.wireFaults :=
  (blames_encode hsized chain).map sha256

/-- The wire form of checked contents fails for the first fault in layout order. -/
theorem blames_serialize {c : Contents} {chainId : Value} (hform : ChainId.IsForm chainId)
    (hsized : c.IsSized) : Blames (c.toTransaction.serialize chainId) (c.faults chainId) :=
  (ChainId.blames_bytesOf hform).bind fun chain _ ↦ blames_encode hsized chain

/-! ### What is reported -/

theorem faults_chainId_ne_nil_iff {chainId : Value} :
    ChainId.faults chainId ≠ [] ↔ ∃ t, chainId = .chars t ∧ ¬ Hex.IsForm t := by
  cases chainId <;> simp [ChainId.faults]

theorem exists_operation_faults_iff (c : Contents) :
    (∃ o ∈ c.operations, o.faults ≠ []) ↔
      (∃ v, .vote v ∈ c.operations ∧ v.permlink.isEncodable = false) ∨
      (∃ d, .customJson d ∈ c.operations ∧
        (d.id.isEncodable = false ∨ d.json.isEncodable = false)) ∨
      ∃ t, .transfer t ∈ c.operations ∧ 2 ^ 63 ≤ t.amount.amount := by
  constructor
  · rintro ⟨o, ho, hfaults⟩
    cases o with
    | vote v =>
      refine .inl ⟨v, ho, ?_⟩
      simpa [Operation.faults] using hfaults
    | transfer t =>
      refine .inr (.inr ⟨t, ho, ?_⟩)
      simpa [Operation.faults] using hfaults
    | witnessVote w => exact absurd rfl hfaults
    | customJson d =>
      refine .inr (.inl ⟨d, ho, ?_⟩)
      simpa [Operation.faults, -not_and, Classical.not_and_iff_not_or_not] using hfaults
  · rintro (⟨v, hv, h⟩ | ⟨d, hd, h⟩ | ⟨t, ht, h⟩)
    · exact ⟨_, hv, by simp [Operation.faults, h]⟩
    · exact ⟨_, hd, by rcases h with h | h <;> simp [Operation.faults, h]⟩
    · exact ⟨_, ht, by simpa [Operation.faults] using h⟩

theorem faults_ne_nil_iff (c : Contents) (chainId : Value) :
    c.faults chainId ≠ [] ↔
      (∃ t, chainId = .chars t ∧ ¬ Hex.IsForm t) ∨ 65535 < c.refBlockNum ∨
      2 ^ 32 ≤ c.expiration.seconds ∨ (∃ o ∈ c.operations, o.faults ≠ []) ∨
      ∃ e ∈ c.extensions, e.typeId ≠ 0 := by
  have hoperations : Operation.faultsFrom 0 c.operations ≠ [] ↔
      ∃ o ∈ c.operations, o.faults ≠ [] := by
    rw [ne_eq, Operation.faultsFrom_eq_nil_iff]
    simp
  rw [← faults_chainId_ne_nil_iff, ← hoperations]
  simp only [faults, wireFaults, headerFaults, extensionFaults, ne_eq, List.append_eq_nil_iff,
    blameUnless_eq_nil_iff, List.flatMap_eq_nil_iff, Classical.not_and_iff_not_or_not, not_le,
    not_lt, not_forall, or_assoc, exists_prop]

/-- The wire form of checked contents fails exactly when it should, for any chain id that is a text
or bytes or absent: if the chain id is a text that is not hexadecimal, the block number or the
expiration has too many bits, a permlink, an id or a document has surrogates, an amount has too many
bits, or an extension has a type other than zero.  Lists have no more members than a count can say.

What is reported is the first of these in layout order, by an encoding fault that names it, so that
of an operation it names the permlink, the amount, the id or the document and nothing else.  There
is one exception: the fault would show a block number, an expiration, an amount or a type, and if
that has too many digits for a text, callers are only told so. -/
theorem serialize_names_first_fault (c : Contents) (chainId : Value)
    (hform : ChainId.IsForm chainId) (hsized : c.IsSized) :
    let outcome := c.toTransaction.serialize chainId
    ((∃ failure, outcome = .error failure) ↔
      (∃ t, chainId = .chars t ∧ ¬ Hex.IsForm t) ∨ 65535 < c.refBlockNum ∨
      2 ^ 32 ≤ c.expiration.seconds ∨
      ((∃ v, .vote v ∈ c.operations ∧ v.permlink.isEncodable = false) ∨
        (∃ d, .customJson d ∈ c.operations ∧
          (d.id.isEncodable = false ∨ d.json.isEncodable = false)) ∨
        ∃ t, .transfer t ∈ c.operations ∧ 2 ^ 63 ≤ t.amount.amount) ∨
      ∃ e ∈ c.extensions, e.typeId ≠ 0) ∧
    (∀ failure, outcome = .error failure →
      ∃ b, (c.faults chainId).head? = some b ∧
        (b.isMute = false → ∃ fault, failure = .own fault ∧ fault.report.kind = .encoding ∧
          fault.report.field = some b.field) ∧
        (b.isMute = true → failure = .foreign .overlong)) ∧
    ∀ o ∈ c.operations, ∀ failure, o.toEntry.encode = .error failure →
      ∃ b, o.faults.head? = some b ∧
        b.field ∈ [lit "permlink", lit "amount", lit "id", lit "json"] ∧
        (b.isMute = false → ∃ fault, failure = .own fault ∧ fault.report.kind = .encoding ∧
          fault.report.field = some b.field) ∧
        (b.isMute = true → failure = .foreign .overlong) := by
  intro outcome
  have houtcome : Blames outcome (c.faults chainId) := blames_serialize hform hsized
  refine ⟨?_, ?_, ?_⟩
  · rw [houtcome.exists_error_iff, faults_ne_nil_iff, exists_operation_faults_iff]
  · intro failure h
    obtain ⟨b, hb, hreports⟩ := houtcome.exists_of_error h
    exact ⟨b, hb, hreports.exists_fault, hreports.eq_overlong⟩
  · intro o ho failure h
    rw [o.encode_toEntry] at h
    obtain ⟨b, hb, hreports⟩ :=
      (Operation.blames_writing (hsized.accounts o ho)).exists_of_error h
    exact ⟨b, hb, Operation.mem_of_mem_faults (List.mem_of_mem_head? hb), hreports.exists_fault,
      hreports.eq_overlong⟩

/-- A vote, and a document that has no bytes, with an extension that cannot be written. -/
def unwritable : Contents :=
  let carol : AccountName := ⟨lit "carol", by decide⟩
  { refBlockNum := 34294, refBlockPrefix := 3707022213, expiration := ⟨1451606400⟩
    operations := [.vote ⟨carol, carol, lit "post", 5000, by decide, by decide⟩,
      .customJson ⟨[carol], [], lit "follow", [.ofNat 0xD800]⟩]
    extensions := [⟨1⟩] }

theorem isSized_unwritable : unwritable.IsSized where
  operations := by decide
  accounts := by
    intro o ho
    rcases List.mem_cons.mp ho with rfl | ho
    · trivial
    · rw [List.mem_singleton.mp ho]
      exact ⟨by decide, by decide⟩
  extensions := by decide

/-- The document is reported and not the extension behind it. -/
theorem serialize_names_first_fault_unwritable :
    ChainId.IsForm (.chars (lit "0a")) ∧ unwritable.IsSized ∧
      ∃ fault, unwritable.toTransaction.serialize (.chars (lit "0a")) = .error (.own fault) ∧
        fault.report.kind = .encoding ∧
        fault.report.field = some (lit "operations[1].json") := by
  have hform : ChainId.IsForm (.chars (lit "0a")) := trivial
  obtain ⟨hiff, hnamed, _⟩ :=
    serialize_names_first_fault unwritable (.chars (lit "0a")) hform isSized_unwritable
  have hextension : ∃ e ∈ unwritable.extensions, e.typeId ≠ 0 :=
    ⟨⟨1⟩, List.mem_cons_self, by decide⟩
  obtain ⟨failure, hfailure⟩ := hiff.mpr (.inr (.inr (.inr (.inr hextension))))
  obtain ⟨b, hb, hown, _⟩ := hnamed failure hfailure
  have hhead : (unwritable.faults (.chars (lit "0a"))).head?
      = some { field := lit "operations[1].json" } := by
    decide +kernel
  rw [hhead, Option.some.injEq] at hb
  subst hb
  obtain ⟨fault, rfl, hkind, hfield⟩ := hown rfl
  exact ⟨hform, isSized_unwritable, fault, hfailure, hkind, hfield⟩

/-! ### A block number with too many digits -/

/-- A vote that refers to a block by its number alone. -/
def numbered (n : Nat) : Contents :=
  let carol : AccountName := ⟨lit "carol", by decide⟩
  { refBlockNum := n, refBlockPrefix := 0, expiration := .unset
    operations := [.vote ⟨carol, carol, lit "post", 5000, by decide, by decide⟩], extensions := [] }

theorem isSized_numbered (n : Nat) : (numbered n).IsSized where
  operations := by
    rw [show (numbered n).operations.length = 1 from rfl]
    decide
  accounts := by
    intro o ho
    rw [List.mem_singleton.mp ho]
    trivial
  extensions := by
    rw [show (numbered n).extensions.length = 0 from rfl]
    decide

theorem ofArguments_numbered (n : Nat) :
    SignedTransaction.ofArguments [(lit "ref_block_num", .int n)]
        ((numbered n).operations.map Operation.toEntry)
      = .ok { (numbered n).toTransaction with signatures := [] } := rfl

theorem serialize_numbered {n : Nat} (h : Numeral.isWritable n = false) :
    (numbered n).toTransaction.serialize .null = .error (.foreign .overlong) := by
  have hlarge : ¬ n ≤ 65535 := by
    intro hle
    rw [Numeral.isWritable_of_lt (by omega)] at h
    cases h
  have hhead : ((numbered n).faults .null).head? = some ⟨lit "ref_block_num", some (n : Int)⟩ := by
    have hnum : (numbered n).refBlockNum = n := rfl
    unfold faults wireFaults headerFaults blameUnless
    rw [hnum, if_neg hlarge]
    rfl
  have hmute : Blame.isMute ⟨lit "ref_block_num", some (n : Int)⟩ = true := by
    unfold Blame.isMute
    rw [Option.any_some, h]
    rfl
  have hwire : Blames ((numbered n).toTransaction.serialize .null) ((numbered n).faults .null) :=
    blames_serialize trivial (isSized_numbered n)
  have hfaults : (numbered n).faults .null ≠ [] := by
    intro hnil
    rw [hnil] at hhead
    cases hhead
  obtain ⟨failure, hfailure⟩ := hwire.exists_error_iff.mpr hfaults
  obtain ⟨b, hb, hreports⟩ := hwire.exists_of_error hfailure
  rw [hhead, Option.some.injEq] at hb
  subst hb
  rw [hfailure, hreports.eq_overlong hmute]

/-- Not every field that cannot be written is named: a block number of 4301 digits is accepted when
the transaction is built, and the wire form fails with a foreign failure. -/
theorem exists_foreign_failure_of_serialize :
    ∃ (o : Operation) (t : SignedTransaction),
      SignedTransaction.ofArguments
        [(lit "ref_block_num", .int (Nat.pow 10 Numeral.digitLimit : Nat))] [o.toEntry] = .ok t ∧
      t.serialize .null = .error (.foreign .overlong) :=
  ⟨_, _, ofArguments_numbered _, serialize_numbered Numeral.isWritable_pow⟩

end Contents

end GrapheneSigner
