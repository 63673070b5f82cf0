import GrapheneSigner.Intake.Model
import GrapheneSigner.Text.Hex

/-!
# Settings of a network

Signing depends on the network: on its chain id, on how far in the future a transaction may
expire, on the number of attempts that are made to sign, and on a clock.  Settings are checked
when they are built.  One set of settings can be installed for the whole process; if none is, the
default is built when it is first asked for.
-/

namespace GrapheneSigner

/-- The settings of a network. -/
structure Config where
  /-- The chain id in hexadecimal digits, letters in lower case. -/
  chainId : Text
  chainId_isHex : Hex.isHex chainId = true
  /-- The greatest number of seconds between now and the expiration of a transaction. -/
  maxExpirationOffset : Int
  offset_gt : 60 < maxExpirationOffset
  /-- The greatest number of attempts at canonical signatures. -/
  maxSigningAttempts : Nat
  attempts_pos : 0 < maxSigningAttempts
  /-- Whether a later expiration is refused; otherwise it is only warned about. -/
  strictExpiration : Bool
  /-- What the clock reads; reading it may fail. -/
  now : Except Foreign Value

namespace Config

/-- The seconds by which a default expiration stays below the greatest one. -/
def safetyMargin : Int := 60

/-- The chain id unless another one is given. -/
def defaultChainId : Text := List.replicate 64 (CodePoint.digit 0)

def chainIdOf (v : Value) : Reading { t : Text // Hex.isHex t = true } :=
  (Reading.chars v).andThen fun t ↦
    if h : Hex.isHex t = true then
      .ok ⟨t.map CodePoint.asciiLower, by rw [Hex.isHex, Hex.read_map_asciiLower]; exact h⟩
    else .issue (.violated (lit "chain_id is not valid hex: " ++ t.quoted))

def offsetOf (v : Value) : Reading { i : Int // 60 < i } :=
  (Reading.int v).andThen fun i ↦ if h : 60 < i then .ok ⟨i, h⟩ else .issue .notAbove

def attemptsOf (v : Value) : Reading { n : Nat // 0 < n } :=
  (Reading.int v).andThen fun i ↦
    if h : 1 ≤ i then .ok ⟨i.toNat, by omega⟩ else .issue .tooSmall

/-- No value that is handed in is a clock. -/
def clockOf (argument : Option Value) : Reading Unit :=
  match argument with
  | none => .ok ()
  | some _ => .issue .notCallable

/-- Settings from their arguments, with a clock that reads `now`. -/
def ofArguments (args : Arguments) (now : Except Foreign Value) : Except Failure Config :=
  ((fun (chainId : { t : Text // Hex.isHex t = true }) (offset : { i : Int // 60 < i })
      (attempts : { n : Nat // 0 < n }) strict (_ : Unit) ↦
      { chainId := chainId.1, chainId_isHex := chainId.2, maxExpirationOffset := offset.1
        offset_gt := offset.2, maxSigningAttempts := attempts.1, attempts_pos := attempts.2
        strictExpiration := strict, now : Config })
    <$> (Reading.optional ⟨defaultChainId, by decide⟩ chainIdOf
        (args.get? "chain_id")).at "chain_id"
    <*> (Reading.optional ⟨3600, by decide⟩ offsetOf
        (args.get? "max_expiration_offset")).at "max_expiration_offset"
    <*> (Reading.optional ⟨500, by decide⟩ attemptsOf
        (args.get? "max_signing_attempts")).at "max_signing_attempts"
    <*> (Reading.optional false Reading.bool
        (args.get? "strict_expiration")).at "strict_expiration"
    <*> (clockOf (args.get? "clock")).at "clock").run

/-- The default settings, with a clock that reads `now`. -/
def default (now : Except Foreign Value) : Config :=
  { chainId := defaultChainId, chainId_isHex := by decide, maxExpirationOffset := 3600
    offset_gt := by decide, maxSigningAttempts := 500, attempts_pos := by decide
    strictExpiration := false, now }

/-- The time that the clock reads. -/
def time (c : Config) : Except Failure TimePoint := do
  (TimePoint.ofSeconds (← c.now.mapError .foreign)).run

def chainBytes (c : Config) : Bytes := (Hex.read c.chainId).toOption.getD []

/-- The settings as a table; the clock is not part of it. -/
def toTable (c : Config) : List (Text × Value) :=
  [(lit "chain_id", .chars c.chainId), (lit "max_expiration_offset", .int c.maxExpirationOffset),
    (lit "max_signing_attempts", .int c.maxSigningAttempts),
    (lit "strict_expiration", .bool c.strictExpiration)]

/-- The settings that are installed for the process.  Settings are numbered as they come into
being, so that two readers can tell whether they were given the same ones. -/
structure Installed where
  current : Option (Nat × Config)
  count : Nat

namespace Installed

/-- Nothing is installed. -/
def none : Installed := ⟨Option.none, 0⟩

/-- Installs settings, or goes back to the default ones. -/
def set (i : Installed) : Option Config → Installed
  | some c => ⟨some (i.count, c), i.count + 1⟩
  | Option.none => { i with current := Option.none }

/-- The installed settings with their number; the default ones are made if there are none. -/
def get (i : Installed) (now : Except Foreign Value) : (Nat × Config) × Installed :=
  match i.current with
  | some found => (found, i)
  | Option.none => ((i.count, default now), ⟨some (i.count, default now), i.count + 1⟩)

end Installed

end Config

end GrapheneSigner
