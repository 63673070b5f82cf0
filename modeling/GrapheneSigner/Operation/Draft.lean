import GrapheneSigner.Intake.Model
import GrapheneSigner.Operation.Basic
import GrapheneSigner.Operation.Requirement
import GrapheneSigner.Wire.Writing

/-!
# Drafts of operations

The fields of an operation may be assigned afterwards without any check, and even be taken away.
A draft is an operation of the catalogue whose fields hold values of any kind, or nothing; every
checked operation is a draft.  What an operation does (its calls on the wire, its signature
requirements, its plain form) is defined on drafts, and the fields decide when they are used.
-/

namespace GrapheneSigner

/-- An operation with unchecked fields. -/
inductive Draft where
  | vote (voter author permlink weight : Option Value)
  | transfer (sender receiver amount memo : Option Value)
  | witnessVote (account witness approve : Option Value)
  | customJson (requiredAuths requiredPostingAuths id json : Option Value)

def Operation.toDraft : Operation → Draft
  | .vote v =>
    .vote (some (.account v.voter)) (some (.account v.author)) (some (.chars v.permlink))
      (some (.int v.weight))
  | .transfer t =>
    .transfer (some (.account t.sender)) (some (.account t.receiver)) (some (.asset t.amount))
      (some (.chars t.memo))
  | .witnessVote w =>
    .witnessVote (some (.account w.account)) (some (.account w.witness)) (some (.bool w.approve))
  | .customJson c =>
    .customJson (some (.list (c.requiredAuths.map .account)))
      (some (.list (c.requiredPostingAuths.map .account))) (some (.chars c.id))
      (some (.chars c.json))

namespace AssetSymbol

/-- A symbol on the wire: its name, filled up with zeros to seven bytes. -/
def wire (s : AssetSymbol) : Bytes := s.name.utf8 ++ List.replicate (7 - s.name.length) 0

end AssetSymbol

namespace Value

/-- The refusal of an extension of another type than zero. -/
def unsupported (typeId : Except Foreign Text) (field : Option Text) : Failure :=
  .showing typeId fun text ↦ encodingFault (lit "Unsupported extension type " ++ text) field

/-- The calls of a typed value; plain values have none. -/
def writing (v : Value) (field : Option Text) : Writing :=
  match v with
  | account a => [.ok (.chars (.chars a.name) field)]
  | asset a => [.ok (.fixed .i64 (.int a.amount) field),
      .ok (.fixed .u8 (.int a.precision) field), .ok (.raw (.bytes a.symbol.wire))]
  | time t => [.ok (.fixed .u32 (.int t.seconds) field)]
  | extension e =>
    if e.typeId = 0 then [.ok (.varint (.int e.typeId) field)]
    else [.error (unsupported (Numeral.shown e.typeId) field)]
  | _ => [.error (.foreign .noMember)]

/-- The names of the accounts in a list. -/
def namesOf : List Value → Except Foreign (List Text)
  | [] => .ok []
  | account a :: vs => (namesOf vs).map (a.name :: ·)
  | _ :: _ => .error .noMember

def names (v : Value) : Except Foreign (List Text) :=
  match v.collection? with
  | some (_, members) => namesOf members
  | none => .error (.wrongKind [])

end Value

namespace AccountSet

/-- Puts a name at its place in an ascending list, unless it is there. -/
def insert (name : Text) : List Text → List Text
  | [] => [name]
  | other :: rest =>
    if name = other then other :: rest
    else if name.before other then name :: other :: rest
    else other :: insert name rest

/-- The distinct names in ascending order. -/
def ofNames (names : List Text) : List Text := names.foldr insert []

/-- A set of accounts on the wire: the number of distinct names, and the names in order. -/
def calls (names : List Text) (field : Text) : List Call :=
  let members := ofNames names
  .varint (.int members.length) (some field) :: members.map fun n ↦ .chars (.chars n) (some field)

/-- The calls of a field that should hold a list of accounts. -/
def writing (v : Value) (field : Text) : Writing :=
  match v.names with
  | .ok names => (calls names field).map .ok
  | .error cause => [.error (.foreign cause)]

end AccountSet

namespace Draft

def kind : Draft → OperationKind
  | vote .. => .vote
  | transfer .. => .transfer
  | witnessVote .. => .witnessVote
  | customJson .. => .customJson

/-- The value of a field that was not taken away. -/
def present (field : Option Value) : Except Failure Value :=
  match field with
  | some v => .ok v
  | none => .error (.foreign .noMember)

/-- The calls of a field that was not taken away. -/
def calls (field : Option Value) (write : Value → Writing) : Writing :=
  match field with
  | some v => write v
  | none => [.error (.foreign .noMember)]

/-- The call of a text, of whatever kind it is. -/
def textCall (field : String) (v : Value) : Writing := [.ok (.chars v (some (lit field)))]

/-- The call of a truth value, which is written as zero or one. -/
def truthCall (field : String) (v : Value) : Writing :=
  [.ok (.fixed .u8 (.int (if v.truthy then 1 else 0)) (some (lit field)))]

/-- The calls of the fields in wire order. -/
def body : Draft → Writing
  | vote voter author permlink weight =>
    calls voter (·.writing (some (lit "voter"))) ++ calls author (·.writing (some (lit "author")))
      ++ calls permlink (textCall "permlink")
      ++ calls weight fun v ↦ [.ok (.fixed .i16 v (some (lit "weight")))]
  | transfer sender receiver amount memo =>
    calls sender (·.writing (some (lit "from"))) ++ calls receiver (·.writing (some (lit "to")))
      ++ calls amount (·.writing (some (lit "amount"))) ++ calls memo (textCall "memo")
  | witnessVote account witness approve =>
    calls account (·.writing (some (lit "account")))
      ++ calls witness (·.writing (some (lit "witness"))) ++ calls approve (truthCall "approve")
  | customJson auths postingAuths id json =>
    calls auths (AccountSet.writing · (lit "required_auths"))
      ++ calls postingAuths (AccountSet.writing · (lit "required_posting_auths"))
      ++ calls id (textCall "id") ++ calls json (textCall "json")

/-- The declared signature requirements. -/
def requirements : Draft → Except Failure (List Requirement)
  | vote voter .. => (present voter).map fun v ↦ [⟨.posting, lit "voter", v⟩]
  | transfer sender .. => (present sender).map fun v ↦ [⟨.active, lit "from", v⟩]
  | witnessVote account .. => (present account).map fun v ↦ [⟨.active, lit "account", v⟩]
  | customJson auths postingAuths .. => do
    return [⟨.active, lit "required_auths", ← present auths⟩,
      ⟨.posting, lit "required_posting_auths", ← present postingAuths⟩]

/-- The draft with a field assigned or taken away; `none` if it has no field of this name. -/
def assign? (d : Draft) (name : Text) (v : Option Value) : Option Draft :=
  match d with
  | vote voter author permlink weight =>
    if name = lit "voter" then some (vote v author permlink weight)
    else if name = lit "author" then some (vote voter v permlink weight)
    else if name = lit "permlink" then some (vote voter author v weight)
    else if name = lit "weight" then some (vote voter author permlink v)
    else none
  | transfer sender receiver amount memo =>
    if name = lit "from_account" then some (transfer v receiver amount memo)
    else if name = lit "to" then some (transfer sender v amount memo)
    else if name = lit "amount" then some (transfer sender receiver v memo)
    else if name = lit "memo" then some (transfer sender receiver amount v)
    else none
  | witnessVote account witness approve =>
    if name = lit "account" then some (witnessVote v witness approve)
    else if name = lit "witness" then some (witnessVote account v approve)
    else if name = lit "approve" then some (witnessVote account witness v)
    else none
  | customJson auths postingAuths id json =>
    if name = lit "required_auths" then some (customJson v postingAuths id json)
    else if name = lit "required_posting_auths" then some (customJson auths v id json)
    else if name = lit "id" then some (customJson auths postingAuths v json)
    else if name = lit "json_payload" then some (customJson auths postingAuths id v)
    else none

def emptied : Draft → Draft
  | vote .. => vote none none none none
  | transfer .. => transfer none none none none
  | witnessVote .. => witnessVote none none none
  | customJson .. => customJson none none none none

/-- The draft with all fields replaced; names that are no fields are passed over. -/
def refilled (d : Draft) (named : List (Text × Value)) : Draft :=
  named.foldl (fun d (e : Text × Value) ↦ (d.assign? e.1 (some e.2)).getD d) d.emptied

end Draft

end GrapheneSigner
