import SnapshotSuite.Main
import SnapshotSuite.Proofs.CommandLine.Accounting
import SnapshotSuite.Proofs.CommandLine.Agreement
import SnapshotSuite.Proofs.CommandLine.Writing
import SnapshotSuite.Proofs.Compiler.Equality
import SnapshotSuite.Proofs.Compiler.Expansion
import SnapshotSuite.Proofs.Compiler.KeyOrder
import SnapshotSuite.Proofs.Compiler.PluginPath
import SnapshotSuite.Proofs.Compiler.Rereading
import SnapshotSuite.Proofs.Document.Layering
import SnapshotSuite.Proofs.Settings.Completion
import SnapshotSuite.Proofs.Settings.Search
import SnapshotSuite.Proofs.Snapshot.Exactness
import SnapshotSuite.Proofs.Snapshot.Message
import SnapshotSuite.Proofs.Suite.History
import SnapshotSuite.Proofs.Suite.Pipeline
import SnapshotSuite.Proofs.Suite.Program
import SnapshotSuite.Proofs.Suite.RecordAssert
