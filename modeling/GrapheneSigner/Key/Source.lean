import GrapheneSigner.Key.Store

/-!
# Key sources

Signing takes its keys from a source, which answers lookups one after another and may change while
it does so.  A source is a key store behind a connection: the connection may let a lookup pass,
answer in place of the store, or hang.  Under a limit on the time of a lookup, a worker makes the
lookups one after another.  A lookup that does not end in time is a fault and logs a warning, and
the worker that it keeps is replaced by a fresh one.  A limit that no clock can wait for is no
limit: whoever has to wait for an answer, however short, fails at once.
-/

namespace GrapheneSigner

/-- A lookup: the answer, and the state of the source after it. -/
abbrev Lookup (σ : Type) := Role → AccountName → σ → Except Failure KeyPair × σ

/-- The lookup of a store, which does not change. -/
def KeyStore.lookup : Lookup KeyStore := fun role a s ↦ (s.resolve role a, s)

/-- What a connection does with one lookup.  An answer that comes in time is there `atOnce` or has
to be waited for. -/
inductive Connection where
  /-- The store answers. -/
  | pass (atOnce : Bool := true)
  /-- The connection answers in its place. -/
  | answer (result : Except Failure KeyPair) (atOnce : Bool := true)
  /-- No answer comes. -/
  | hang

/-- What becomes of a lookup in the time that is left for it. -/
inductive Outcome where
  | settled (result : Except Failure KeyPair)
  | hung

namespace Connection

def outcome (c : Connection) (store : KeyStore) (role : Role) (a : AccountName) : Outcome :=
  match c with
  | pass _ => .settled (store.resolve role a)
  | answer result _ => .settled result
  | hang => .hung

/-- Nobody has to wait for the answer. -/
def isAtOnce : Connection → Bool
  | pass atOnce => atOnce
  | answer _ atOnce => atOnce
  | hang => false

end Connection

/-- The result of a lookup without limit; one that hangs times out in the end. -/
def Outcome.result : Outcome → Except Failure KeyPair
  | settled r => r
  | hung => .error (.foreign .timedOut)

/-- A value above zero; `none` if it is no number. -/
def Value.isPositive? : Value → Option Bool
  | .float x => some (match x with
    | .finite negative m _ => !negative && m != 0
    | .infinite negative => !negative
    | .notANumber => true)
  | v => v.integer?.map fun i ↦ decide (0 < i)

/-- A limit on the time of a lookup, in seconds. -/
structure Limit where
  seconds : Value
  isPositive : seconds.isPositive? = some true

namespace Limit

/-- Clocks count nanoseconds below this bound, 2 to the power 63. -/
def clockBound : Nat := 0x8000000000000000

/-- No clock can wait for so many seconds.  A float is multiplied in double precision, in which
all that is not less than half a unit below the bound is rounded to it. -/
def exceedsClock : Value → Bool
  | .float x =>
    match x.ratio? with
    | some (_, num, den) => (clockBound - 512) * den ≤ num * 1000000000
    | none => x != .notANumber
  | v => (v.integer?.map fun i ↦ decide ((clockBound : Int) ≤ i * 1000000000)).getD false

/-- No clock can wait that long. -/
def isEndless (limit : Limit) : Bool := exceedsClock limit.seconds

/-- Waits for the result of a lookup, if it is not there `atOnce`.  If none comes, the wait times
out, but a clock that cannot wait that long fails at once. -/
def await (limit : Limit) (atOnce : Bool) (answer : Option (Except Failure KeyPair)) :
    Except Failure KeyPair :=
  if limit.isEndless && !(atOnce && answer.isSome) then .error (.foreign .overflow)
  else answer.getD (.error (.foreign .timedOut))

end Limit

/-- A key store behind a connection. -/
structure KeySource where
  store : KeyStore
  /-- What the connection does with the next lookups; it lets all later ones pass. -/
  plan : List Connection
  /-- The limit on the time of a lookup. -/
  limit : Option Limit
  /-- The worker is kept by a lookup that hangs, and all later ones wait behind it. -/
  isStuck : Bool := false
  /-- The number of lookups so far. -/
  calls : Nat
  /-- The warnings so far. -/
  warnings : List Text

namespace KeySource

def ofStore (store : KeyStore) : KeySource :=
  { store, plan := [], limit := none, calls := 0, warnings := [] }

def withLimit (s : KeySource) (timeout : Value) : Except Failure KeySource :=
  match h : timeout.isPositive? with
  | some true => .ok { s with limit := some ⟨timeout, h⟩ }
  | some false => .error (.badValue (lit "timeout must be positive"))
  | none => .error (.foreign (.wrongKind []))

/-- The fault of a lookup that was not answered in time. -/
def late (limit : Text) (role : Role) (a : AccountName) : Failure :=
  (Failure.foreign .timedOut).causing (.ofKind .lookupTimeout
    (lit "Key store did not resolve the " ++ role.name ++ lit " key of '" ++ a.name
      ++ lit "' within " ++ limit ++ lit "s")
    [(lit "account", .chars a.name), (lit "keyType", .chars role.name)])

/-- The warning of a lookup that was not answered in time. -/
def lateWarning (limit : Text) (role : Role) (a : AccountName) : Text :=
  lit "Key store lookup for " ++ role.name ++ lit " key of '" ++ a.name ++ lit "' timed out after "
    ++ limit ++ lit "s"

/-- What the source does with the next lookup. -/
def next (s : KeySource) : Connection := s.plan.headD .pass

/-- The source after a lookup without warning. -/
def advance (s : KeySource) : KeySource := { s with plan := s.plan.tail, calls := s.calls + 1 }

/-- Hands a lookup to the worker, which takes it up unless it is kept by an earlier one. -/
def submit (role : Role) (a : AccountName) (s : KeySource) :
    Option (Except Failure KeyPair) × KeySource :=
  if s.isStuck then (none, s)
  else
    match s.next.outcome s.store role a with
    | .settled result => (some result, s.advance)
    | .hung => (none, { s.advance with isStuck := true })

/-- Leaves the worker to the lookup that keeps it; later lookups get a fresh one. -/
def renew (s : KeySource) : KeySource := { s with isStuck := false }

/-- Reports a lookup that was not answered in time, if the limit can be shown. -/
def report (limit : Limit) : Lookup KeySource := fun role a s ↦
  match limit.seconds.shown with
  | .ok text => (.error (late text role a),
      { s with warnings := s.warnings ++ [lateWarning text role a] })
  | .error cause => (.error (.foreign cause), s)

/-- Looks up a key under a limit.  A wait that times out is a fault, and so is a lookup that times
out by its own account; either way the worker is replaced. -/
def lookupWithin (limit : Limit) : Lookup KeySource := fun role a s ↦
  let (answer, left) := s.submit role a
  match limit.await s.next.isAtOnce answer with
  | .error (.foreign .timedOut) => left.renew.report limit role a
  | result => (result, left)

def lookup : Lookup KeySource := fun role a s ↦
  match s.limit with
  | some limit => lookupWithin limit role a s
  | none => ((s.next.outcome s.store role a).result, s.advance)

/-- Whether there is a key; a missing key for whatever reason is no failure. -/
def has (s : KeySource) (role : Role) (a : AccountName) : Except Failure Bool × KeySource :=
  match lookup role a s with
  | (.ok _, s) => (.ok true, s)
  | (.error (.own f), s) =>
    if f.report.kind.isMissingKey then (.ok false, s) else (.error (.own f), s)
  | (.error failure, s) => (.error failure, s)

end KeySource

end GrapheneSigner
