import ReporterRegistry.Bytes
import ReporterRegistry.Radix
import ReporterRegistry.Text.Decimal
import ReporterRegistry.Text.Utf8
import ReporterRegistry.Text.Hex
import ReporterRegistry.Text.Base58
import ReporterRegistry.Text.Uuid
import ReporterRegistry.Hash.Sha256
import ReporterRegistry.Hash.Sha512
import ReporterRegistry.Hash.Keccak256
import ReporterRegistry.PublicKey
import ReporterRegistry.Ed25519.Keypair
import ReporterRegistry.Account
import ReporterRegistry.ReporterId
import ReporterRegistry.Derivation.Entity
import ReporterRegistry.Configuration
import ReporterRegistry.Json.Printer
import ReporterRegistry.Json.Parser
import ReporterRegistry.Json.Forms
import ReporterRegistry.Derivation.Vectors
import ReporterRegistry.OrderedMap
import ReporterRegistry.Clock
import ReporterRegistry.Ledger
import ReporterRegistry.Store.Memory
import ReporterRegistry.Store.Indexed
import ReporterRegistry.Registry.Event
import ReporterRegistry.Registry.Reporters
import ReporterRegistry.Cbor.Forms
import ReporterRegistry.Store.Migration
import ReporterRegistry.Session.Participants
import ReporterRegistry.Proofs.Octets
import ReporterRegistry.Proofs.OrderedMap
import ReporterRegistry.Proofs.Outcomes
import ReporterRegistry.Proofs.Radix
import ReporterRegistry.Proofs.Ledger.Transfers
import ReporterRegistry.Proofs.Ledger.Calls
import ReporterRegistry.Proofs.Ledger.Supply
import ReporterRegistry.Proofs.Store.Records
import ReporterRegistry.Proofs.Registry.Verdict
import ReporterRegistry.Proofs.Registry.Commit
import ReporterRegistry.Proofs.Registry.Run
import ReporterRegistry.Proofs.Registry.Atomicity
import ReporterRegistry.Proofs.Registry.Solvency
import ReporterRegistry.Proofs.Registry.Withdrawals
import ReporterRegistry.Proofs.Text.Utf8
import ReporterRegistry.Proofs.Text.Hex
import ReporterRegistry.Proofs.Text.Base58
import ReporterRegistry.Proofs.Text.Decimal
import ReporterRegistry.Proofs.Text.Uuid
import ReporterRegistry.Proofs.Json.Legible
import ReporterRegistry.Proofs.Json.Forms
import ReporterRegistry.Proofs.Json.Values
import ReporterRegistry.Proofs.Address.Spelling
import ReporterRegistry.Proofs.Derivation.Messages
import ReporterRegistry.Proofs.Cbor.Numbers
import ReporterRegistry.Proofs.Cbor.Records
import ReporterRegistry.Proofs.Store.Tables
import ReporterRegistry.Proofs.Store.Agreement
import ReporterRegistry.Proofs.Store.Rows
import ReporterRegistry.Proofs.Store.Migration
import ReporterRegistry.Proofs.Store.Opening
import ReporterRegistry.Proofs.Store.Configurations
import ReporterRegistry.Proofs.Store.CreationOrder
import ReporterRegistry.Proofs.Registry.Regularity
import ReporterRegistry.Proofs.Registry.Journal
import ReporterRegistry.Proofs.Registry.Permissions
import ReporterRegistry.Proofs.Registry.TimeLock
import ReporterRegistry.Proofs.Registry.Readback
import ReporterRegistry.Proofs.Registry.Compensation
import ReporterRegistry.Proofs.Registry.EventForms
import ReporterRegistry.Proofs.Registry.Alike
import ReporterRegistry.Proofs.Store.Indexed
import ReporterRegistry.Proofs.Registry.Site
import ReporterRegistry.Proofs.Registry.Allowances
import ReporterRegistry.Proofs.Registry.Governance
import ReporterRegistry.Proofs.Ed25519.Field
import ReporterRegistry.Proofs.Ed25519.Curve
import ReporterRegistry.Proofs.Derivation.OffCurve
import ReporterRegistry.Proofs.Derivation.Search
import ReporterRegistry.Proofs.Derivation.Locating
import ReporterRegistry.Proofs.Derivation.Padding
import ReporterRegistry.Proofs.Registry.Health
import ReporterRegistry.Proofs.Registry.Locking
import ReporterRegistry.Proofs.Registry.SelfService
import ReporterRegistry.Proofs.Registry.Independence
