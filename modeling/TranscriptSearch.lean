import TranscriptSearch.Main
import TranscriptSearch.Snapshot.Status
import TranscriptSearch.Proofs.Index.Linked
import TranscriptSearch.Proofs.Index.Log
import TranscriptSearch.Proofs.Index.Scan
import TranscriptSearch.Proofs.Index.Agreement
import TranscriptSearch.Proofs.Index.Stored
import TranscriptSearch.Proofs.Service.Request
import TranscriptSearch.Proofs.Files.Path
import TranscriptSearch.Proofs.Files.Tree
import TranscriptSearch.Proofs.Snapshot.Store
import TranscriptSearch.Proofs.Service.Queue
import TranscriptSearch.Proofs.Service.Reachable
import TranscriptSearch.Proofs.Service.Coalescing
import TranscriptSearch.Proofs.Json.Number
import TranscriptSearch.Proofs.Text.Utf8
import TranscriptSearch.Proofs.Json.Token
import TranscriptSearch.Proofs.Json.Reader
import TranscriptSearch.Proofs.Json.Fields
import TranscriptSearch.Proofs.Number.Binary64
import TranscriptSearch.Proofs.Json.Finite
import TranscriptSearch.Proofs.SessionKey
import TranscriptSearch.Proofs.Index.Codec
import TranscriptSearch.Proofs.Index.Reread
import TranscriptSearch.Proofs.Snapshot.Record
import TranscriptSearch.Proofs.Snapshot.Failure
import TranscriptSearch.Proofs.Service.Build
import TranscriptSearch.Proofs.Index.Attainable
import TranscriptSearch.Proofs.Snapshot.Atomic
import TranscriptSearch.Proofs.Service.Course
import TranscriptSearch.Proofs.Service.Account
import TranscriptSearch.Proofs.CommandLine.Run
import TranscriptSearch.Proofs.Settings.Length
import TranscriptSearch.Proofs.CommandLine.Catalogue
import TranscriptSearch.Proofs.CommandLine.History
import TranscriptSearch.Proofs.CommandLine.Unusable
import TranscriptSearch.Proofs.Query.Token
import TranscriptSearch.Proofs.Text.Casing
import TranscriptSearch.Proofs.Query.Vocabulary
import TranscriptSearch.Proofs.Query.Canonical
import TranscriptSearch.Proofs.Query.Remainder
import TranscriptSearch.Proofs.Index.Conjunction
import TranscriptSearch.Proofs.Term
import TranscriptSearch.Proofs.Query.Juxtaposition
import TranscriptSearch.Proofs.Service.Update
import TranscriptSearch.Proofs.Snapshot.Elsewhere
import TranscriptSearch.Proofs.Service.Current
import TranscriptSearch.Proofs.Service.Stamp
import TranscriptSearch.Proofs.CommandLine.Staleness
import TranscriptSearch.Proofs.Query.Cursor
import TranscriptSearch.Proofs.Query.Spelling
import TranscriptSearch.Proofs.Query.Recovery
import TranscriptSearch.Proofs.Files.Parent
import TranscriptSearch.Proofs.Query.Overlay
import TranscriptSearch.Proofs.Settings.Discovery
import TranscriptSearch.Proofs.Settings.Layers
import TranscriptSearch.Proofs.Index.Postings
import TranscriptSearch.Proofs.Index.Report
import TranscriptSearch.Proofs.Index.Batches
import TranscriptSearch.Proofs.Query.Sources
import TranscriptSearch.Proofs.Service.Reports
import TranscriptSearch.Proofs.Service.Places
import TranscriptSearch.Proofs.Service.Folding
import TranscriptSearch.Proofs.Service.Observers
import TranscriptSearch.Proofs.Index.Faithful
import TranscriptSearch.Proofs.Json.Whole
import TranscriptSearch.Proofs.Snapshot.Version
import TranscriptSearch.Proofs.Index.LetterCase
import TranscriptSearch.Proofs.Index.Recall
import TranscriptSearch.Proofs.Term.Stream
import TranscriptSearch.Proofs.Settings.IndexDirectory
import TranscriptSearch.Proofs.Toml.Token
import TranscriptSearch.Proofs.Toml.Statement
import TranscriptSearch.Proofs.Settings.Render
import TranscriptSearch.Proofs.Settings.Warning
