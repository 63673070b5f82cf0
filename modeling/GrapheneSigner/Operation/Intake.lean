import GrapheneSigner.Operation.Draft

/-!
# Building operations

An operation is built from its arguments by name.  All arguments are read, and the issues of all
of them are reported together.  The sender of a transfer and the document of a custom operation
have two names each; the wire name has precedence.
-/

namespace GrapheneSigner

/-- An argument that has two names: the name under which it is found, and the argument. -/
def Arguments.either (args : Arguments) (first second : String) : String × Option Value :=
  match args.get? first, args.get? second with
  | none, some v => (second, some v)
  | found, _ => (first, found)

namespace Vote

/-- A weight in basis points, with the proof of its bounds. -/
def weightOf (v : Value) : Reading { w : Int // -10000 ≤ w ∧ w ≤ 10000 } :=
  (Reading.int v).andThen fun w ↦
    if low : -10000 ≤ w then
      if high : w ≤ 10000 then .ok ⟨w, low, high⟩ else .issue .tooGreat
    else .issue .tooSmall

def ofArguments (args : Arguments) : Reading Vote :=
  (fun voter author permlink (weight : { w : Int // -10000 ≤ w ∧ w ≤ 10000 }) ↦
      { voter, author, permlink, weight := weight.1, le_weight := weight.2.1
        weight_le := weight.2.2 })
    <$> (Reading.required AccountName.ofField (args.get? "voter")).at "voter"
    <*> (Reading.required AccountName.ofField (args.get? "author")).at "author"
    <*> (Reading.required Reading.chars (args.get? "permlink")).at "permlink"
    <*> (Reading.required weightOf (args.get? "weight")).at "weight"

end Vote

namespace Transfer

/-- An amount that can be transferred. -/
def amountOf (v : Value) : Reading { a : Asset // 0 < a.amount ∧ a.symbol ≠ .vesting } :=
  (Asset.ofField v).andThen fun a ↦
    if positive : 0 < a.amount then
      if liquid : a.symbol ≠ .vesting then .ok ⟨a, positive, liquid⟩
      else .issue (.violated (lit "VESTS cannot be transferred"))
    else .issue (.violated (lit "Transfer amount must be positive"))

/-- A memo that can be written. -/
def memoOf (v : Value) :
    Reading { t : Text // t.isEncodable = true ∧ t.utf8.length < memoLimit } :=
  (Reading.chars v).andThen fun t ↦
    if encodable : t.isEncodable = true then
      if short : t.utf8.length < memoLimit then .ok ⟨t, encodable, short⟩
      else .issue (.violated (lit "Memo must be shorter than 2048 bytes"))
    else .issue (.violated t.utf8Fault)

def ofArguments (args : Arguments) : Reading Transfer :=
  let (senderName, senderArgument) := args.either "from" "from_account"
  (fun sender receiver (amount : { a : Asset // 0 < a.amount ∧ a.symbol ≠ .vesting })
      (memo : { t : Text // t.isEncodable = true ∧ t.utf8.length < memoLimit }) ↦
      { sender, receiver, amount := amount.1, memo := memo.1, amount_pos := amount.2.1
        amount_liquid := amount.2.2, memo_encodable := memo.2.1, memo_short := memo.2.2 })
    <$> (Reading.required AccountName.ofField senderArgument).at senderName
    <*> (Reading.required AccountName.ofField (args.get? "to")).at "to"
    <*> (Reading.required amountOf (args.get? "amount")).at "amount"
    <*> (Reading.optional ⟨[], by decide⟩ memoOf (args.get? "memo")).at "memo"

end Transfer

namespace WitnessVote

/-- A witness vote from its arguments; it approves unless told otherwise. -/
def ofArguments (args : Arguments) : Reading WitnessVote :=
  WitnessVote.mk
    <$> (Reading.required AccountName.ofField (args.get? "account")).at "account"
    <*> (Reading.required AccountName.ofField (args.get? "witness")).at "witness"
    <*> (Reading.optional true Reading.bool (args.get? "approve")).at "approve"

end WitnessVote

namespace CustomJson

/-- A custom operation from its arguments; without lists of accounts nobody has to sign. -/
def ofArguments (args : Arguments) : Reading CustomJson :=
  let (jsonName, jsonArgument) := args.either "json" "json_payload"
  CustomJson.mk
    <$> (Reading.optional [] (Reading.list AccountName.ofField)
        (args.get? "required_auths")).at "required_auths"
    <*> (Reading.optional [] (Reading.list AccountName.ofField)
        (args.get? "required_posting_auths")).at "required_posting_auths"
    <*> (Reading.required Reading.chars (args.get? "id")).at "id"
    <*> (Reading.required Reading.chars jsonArgument).at jsonName

end CustomJson

namespace Operation

def ofArguments (kind : OperationKind) (args : Arguments) : Except Failure Operation :=
  match kind with
  | .vote => (Operation.vote <$> Vote.ofArguments args).run
  | .transfer => (Operation.transfer <$> Transfer.ofArguments args).run
  | .witnessVote => (Operation.witnessVote <$> WitnessVote.ofArguments args).run
  | .customJson => (Operation.customJson <$> CustomJson.ofArguments args).run

end Operation

end GrapheneSigner
