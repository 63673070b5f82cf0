import GrapheneSigner.Model.AccountName
import GrapheneSigner.Model.Asset
import GrapheneSigner.Text.Utf8

/-!
# Operations

The catalogue has four operations.  Each is a structure whose fields have passed their checks:
vote weights are basis points, transferred amounts are positive and liquid, and memos are short
texts without surrogates.
-/

namespace GrapheneSigner

/-- A vote on a post; the weight is in basis points, and a negative one is a flag. -/
structure Vote where
  voter : AccountName
  author : AccountName
  permlink : Text
  weight : Int
  le_weight : -10000 ≤ weight
  weight_le : weight ≤ 10000
  deriving DecidableEq

/-- The number of bytes that the memo of a transfer stays below. -/
def memoLimit : Nat := 2048

/-- A move of liquid tokens from one account to another. -/
structure Transfer where
  sender : AccountName
  receiver : AccountName
  amount : Asset
  memo : Text
  amount_pos : 0 < amount.amount
  amount_liquid : amount.symbol ≠ .vesting
  memo_encodable : memo.isEncodable = true
  memo_short : memo.utf8.length < memoLimit
  deriving DecidableEq

/-- Approval of a witness, or its withdrawal. -/
structure WitnessVote where
  account : AccountName
  witness : AccountName
  approve : Bool
  deriving DecidableEq

/-- A document of an application, signed by accounts with their active or posting keys. -/
structure CustomJson where
  requiredAuths : List AccountName
  requiredPostingAuths : List AccountName
  id : Text
  json : Text
  deriving DecidableEq

/-- An operation of the catalogue. -/
inductive Operation where
  | vote (v : Vote)
  | transfer (t : Transfer)
  | witnessVote (w : WitnessVote)
  | customJson (c : CustomJson)
  deriving DecidableEq

namespace Operation

def kind : Operation → OperationKind
  | vote _ => .vote
  | transfer _ => .transfer
  | witnessVote _ => .witnessVote
  | customJson _ => .customJson

end Operation

end GrapheneSigner
