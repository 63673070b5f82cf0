import GrapheneSigner.Text.Utf8
import GrapheneSigner.Text.Hex
import GrapheneSigner.Text.Numeral
import GrapheneSigner.Decimal.Shortest
import GrapheneSigner.Calendar.Instant
import GrapheneSigner.Model.AccountName
import GrapheneSigner.Model.Asset
import GrapheneSigner.Model.TimePoint
import GrapheneSigner.Value.Shown
import GrapheneSigner.Intake.Reading
import GrapheneSigner.Intake.Model
import GrapheneSigner.Wire.Writing
import GrapheneSigner.Wire.Method
import GrapheneSigner.Operation.Intake
import GrapheneSigner.Operation.Entry
import GrapheneSigner.Secp256k1.Signature
import GrapheneSigner.Collection.Ledger
import GrapheneSigner.Key.Wallet
import GrapheneSigner.Signing.Resolver
import GrapheneSigner.Transaction.Intake
import GrapheneSigner.Signing.Engine
import GrapheneSigner.Value.Json
import GrapheneSigner.Proofs.Transaction.Decoding
import GrapheneSigner.Proofs.Signing.Reachable
import GrapheneSigner.Proofs.Secp256k1.Primality
import GrapheneSigner.Proofs.Secp256k1.Group
import GrapheneSigner.Proofs.Secp256k1.Order
import GrapheneSigner.Proofs.Secp256k1.Recovery
import GrapheneSigner.Proofs.Secp256k1.Signing
import GrapheneSigner.Proofs.Signing.Discovery
import GrapheneSigner.Proofs.Signing.Recoverable
import GrapheneSigner.Proofs.Signing.Rounds
import GrapheneSigner.Proofs.Signing.WireEquality
import GrapheneSigner.Proofs.Signing.StrictWindow
import GrapheneSigner.Proofs.Transaction.Header
import GrapheneSigner.Proofs.Signing.Preconditions
import GrapheneSigner.Proofs.Signing.Signers
import GrapheneSigner.Proofs.Calendar.Stamp
import GrapheneSigner.Proofs.Wire.Plain
import GrapheneSigner.Proofs.Transaction.Contents
import GrapheneSigner.Proofs.Signing.OwnFaults
import GrapheneSigner.Proofs.Signing.Repeated
import GrapheneSigner.Proofs.Transaction.Faults
import GrapheneSigner.Proofs.Transaction.Table
import GrapheneSigner.Proofs.Secp256k1.Soundness
import GrapheneSigner.Proofs.Network.Config
import GrapheneSigner.Proofs.Signing.ChainForms
import GrapheneSigner.Proofs.Signing.Timeouts
import GrapheneSigner.Proofs.Key.Store
import GrapheneSigner.Proofs.Signing.Verification
import GrapheneSigner.Proofs.Signing.Canonical
import GrapheneSigner.Proofs.Model.NameGrammar
import GrapheneSigner.Proofs.Model.WrittenAmount
import GrapheneSigner.Proofs.Model.PrintedAsset
import GrapheneSigner.Proofs.Calendar.Timestamp
import GrapheneSigner.Proofs.Calendar.Instant
import GrapheneSigner.Proofs.Key.Wallet
import GrapheneSigner.Proofs.Wire.Varint
import GrapheneSigner.Proofs.Wire.Run
import GrapheneSigner.Proofs.Key.Refusal
import GrapheneSigner.Proofs.Signing.CheckedBytes
