import SchemaLedger.Digest.Error
import SchemaLedger.Durable.Damage
import SchemaLedger.Main
import SchemaLedger.Proofs.Digest.Formatting
import SchemaLedger.Proofs.Durable.Pieces
import SchemaLedger.Proofs.Durable.Survival
import SchemaLedger.Proofs.Record.Family
import SchemaLedger.Proofs.Registry.Address
import SchemaLedger.Proofs.Registry.Intake
import SchemaLedger.Proofs.Schema.FieldNotes
import SchemaLedger.Proofs.Settings.Components
import SchemaLedger.Proofs.Settings.Numbers
import SchemaLedger.Proofs.Sync.Absence
import SchemaLedger.Proofs.Sync.AppendOnly
import SchemaLedger.Proofs.Sync.FanOut
import SchemaLedger.Proofs.Sync.Incremental
import SchemaLedger.Proofs.Sync.MarkSafety
import SchemaLedger.Proofs.Sync.Outcomes
import SchemaLedger.Proofs.Sync.Overtaken
import SchemaLedger.Proofs.Sync.Provenance
import SchemaLedger.Proofs.Sync.Reconciliation
import SchemaLedger.Proofs.Sync.Rerun
import SchemaLedger.Proofs.Sync.Settings
import SchemaLedger.Proofs.Sync.Timetable
import SchemaLedger.Rehearsal.Stage
import SchemaLedger.Rehearsal.Terminal
