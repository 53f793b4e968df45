import SourceLedger.Identity
import SourceLedger.Json.Reading
import SourceLedger.Json.Writing
import SourceLedger.Level
import SourceLedger.Parsing
import SourceLedger.Resolution.Basic
import SourceLedger.Value.Equality
import SourceLedger.Value.Merge
import SourceLedger.Command.Basic
import SourceLedger.Run.Stage
import SourceLedger.Proofs.Binary64.Notation
import SourceLedger.Proofs.Entries
import SourceLedger.Proofs.FileSystem.Changes
import SourceLedger.Proofs.FileSystem.Growth
import SourceLedger.Proofs.FileSystem.Script
import SourceLedger.Proofs.Json.Number
import SourceLedger.Proofs.Json.Reading
import SourceLedger.Proofs.Json.RoundTrip
import SourceLedger.Proofs.Store.Directories
import SourceLedger.Proofs.Store.Drafts
import SourceLedger.Proofs.Store.Storing
import SourceLedger.Proofs.Store.Atomic
import SourceLedger.Proofs.Store.Document
import SourceLedger.Proofs.Store.Levels
import SourceLedger.Proofs.Run.Refresh
import SourceLedger.Proofs.Run.Succession
import SourceLedger.Proofs.Run.Coherence
import SourceLedger.Proofs.Run.StoredTrees
import SourceLedger.Proofs.Run.Counters
import SourceLedger.Proofs.Run.Readable
import SourceLedger.Proofs.Execution
import SourceLedger.Proofs.Syntax.Members
import SourceLedger.Proofs.Run.CachedConfiguration
import SourceLedger.Proofs.Run.RejectedOptions
import SourceLedger.Proofs.Syntax.Escapes
import SourceLedger.Proofs.Loading.SharedPaths
import SourceLedger.Proofs.Loading.Bytes
import SourceLedger.Proofs.Loading.Rejected
import SourceLedger.Proofs.Loading.Batches
import SourceLedger.Proofs.Loading.Idempotent
import SourceLedger.Proofs.Syntax.Locations
import SourceLedger.Proofs.Syntax.Faithful
import SourceLedger.Proofs.Resolution
import SourceLedger.Proofs.Identity
import SourceLedger.Proofs.Value.Overlay
import SourceLedger.Proofs.Configuration.Outcome
import SourceLedger.Proofs.Store.Reading
import SourceLedger.Proofs.Store.View
import SourceLedger.Proofs.ParseOptions.Language
import SourceLedger.Proofs.Path.NormalForm
import SourceLedger.Proofs.Command.ExitCode
