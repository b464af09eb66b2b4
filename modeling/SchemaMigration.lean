import SchemaMigration.Cli.Program
import SchemaMigration.Cli.Usage
import SchemaMigration.Engine.Report
import SchemaMigration.Main
import SchemaMigration.Proofs.Aborting
import SchemaMigration.Proofs.Alignment
import SchemaMigration.Proofs.Clearing
import SchemaMigration.Proofs.Completion
import SchemaMigration.Proofs.CompletionOrder
import SchemaMigration.Proofs.Composition
import SchemaMigration.Proofs.Confinement
import SchemaMigration.Proofs.Consent
import SchemaMigration.Proofs.Convergence
import SchemaMigration.Proofs.Diagram
import SchemaMigration.Proofs.Discovery
import SchemaMigration.Proofs.Drift
import SchemaMigration.Proofs.Duplicates
import SchemaMigration.Proofs.Exits
import SchemaMigration.Proofs.Fingerprints
import SchemaMigration.Proofs.History
import SchemaMigration.Proofs.Ignoring
import SchemaMigration.Proofs.Inspection
import SchemaMigration.Proofs.Interleaving
import SchemaMigration.Proofs.Interruption
import SchemaMigration.Proofs.Joining
import SchemaMigration.Proofs.Marking
import SchemaMigration.Proofs.Overriding
import SchemaMigration.Proofs.Precedence
import SchemaMigration.Proofs.Prediction
import SchemaMigration.Proofs.Readback
import SchemaMigration.Proofs.Recording
import SchemaMigration.Proofs.Remarking
import SchemaMigration.Proofs.Repairing
import SchemaMigration.Proofs.Repetition
import SchemaMigration.Proofs.Settling
import SchemaMigration.Proofs.Sources
import SchemaMigration.Proofs.Splitting
import SchemaMigration.Proofs.Strategies
import SchemaMigration.Proofs.Surveying
import SchemaMigration.Proofs.Undoing
import SchemaMigration.Proofs.Unwinding
import SchemaMigration.Proofs.Views
import SchemaMigration.Sql.Dump
