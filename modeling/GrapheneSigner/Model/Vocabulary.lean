import GrapheneSigner.Text.Basic

/-!
# Closed vocabularies

The network knows five authority roles, three core assets and, in this library, four kinds of
operations.  Each vocabulary is an enumeration with its written names, and each can be searched
by name or number.
-/

namespace GrapheneSigner

/-- The authority a key of an account stands for. -/
inductive Role where
  | owner
  | active
  | posting
  | memo
  | other
  deriving DecidableEq

namespace Role

def all : List Role := [.owner, .active, .posting, .memo, .other]

def name : Role → Text
  | owner => lit "owner"
  | active => lit "active"
  | posting => lit "posting"
  | memo => lit "memo"
  | other => lit "other"

def ofName? (t : Text) : Option Role := all.find? fun r ↦ r.name = t

end Role

/-- The core assets: the liquid token, the pegged dollar and vested shares. -/
inductive AssetSymbol where
  | liquid
  | dollar
  | vesting
  deriving DecidableEq

namespace AssetSymbol

def all : List AssetSymbol := [.liquid, .dollar, .vesting]

def name : AssetSymbol → Text
  | liquid => lit "STEEM"
  | dollar => lit "SBD"
  | vesting => lit "VESTS"

/-- The number of decimal places in which amounts of the asset are written. -/
def precision : AssetSymbol → Nat
  | liquid => 3
  | dollar => 3
  | vesting => 6

def ofName? (t : Text) : Option AssetSymbol := all.find? fun s ↦ s.name = t

end AssetSymbol

/-- The kinds of operations. -/
inductive OperationKind where
  | vote
  | transfer
  | witnessVote
  | customJson
  deriving DecidableEq

namespace OperationKind

def all : List OperationKind := [.vote, .transfer, .witnessVote, .customJson]

/-- The number that is written in front of an operation of this kind. -/
def tag : OperationKind → Nat
  | vote => 0
  | transfer => 2
  | witnessVote => 12
  | customJson => 18

def name : OperationKind → Text
  | vote => lit "VOTE"
  | transfer => lit "TRANSFER"
  | witnessVote => lit "ACCOUNT_WITNESS_VOTE"
  | customJson => lit "CUSTOM_JSON"

/-- The name under which operations of this kind report themselves. -/
def title : OperationKind → Text
  | vote => lit "VoteOperation"
  | transfer => lit "TransferOperation"
  | witnessVote => lit "AccountWitnessVoteOperation"
  | customJson => lit "CustomJsonOperation"

def ofTag? (n : Int) : Option OperationKind := all.find? fun k ↦ (k.tag : Int) = n

end OperationKind

end GrapheneSigner
