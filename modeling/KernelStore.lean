import KernelStore.Arena
import KernelStore.Arena.Emission
import KernelStore.Arena.Trace
import KernelStore.Arena.Action
import KernelStore.Arena.Words
import KernelStore.Artifact.Encoding
import KernelStore.Artifact.Guarded
import KernelStore.Artifact.Header
import KernelStore.Artifact.Header.Steps
import KernelStore.Artifact.InfoFile
import KernelStore.Artifact.Json
import KernelStore.Artifact.Metadata
import KernelStore.Artifact.NamePool
import KernelStore.Artifact.NamePool.Interner
import KernelStore.Artifact.Report
import KernelStore.Artifact.Section
import KernelStore.Bytes
import KernelStore.Bytes.Content
import KernelStore.Bytes.LittleEndian
import KernelStore.Bytes.Parity
import KernelStore.Bytes.Reading
import KernelStore.CommandLine.Arguments
import KernelStore.CommandLine.Execution
import KernelStore.Dependency
import KernelStore.Diagnostic
import KernelStore.Diagnostic.Json
import KernelStore.Digest
import KernelStore.Digest.Json
import KernelStore.Digest.Sha1
import KernelStore.Digest.Streaming
import KernelStore.FileTree
import KernelStore.FileTree.Entry
import KernelStore.FileTree.Path
import KernelStore.Json.Reading
import KernelStore.Json.Value
import KernelStore.Main
import KernelStore.Precision
import KernelStore.Settings
import KernelStore.Settings.File
import KernelStore.Settings.Reading
import KernelStore.Settings.Toggles
import KernelStore.Settings.Validation
import KernelStore.Slot.Layout
import KernelStore.Slot.Memory
import KernelStore.Slot.Words
import KernelStore.Store.Compile
import KernelStore.Store.Kernel
import KernelStore.Store.Lookup
import KernelStore.Store.Miss
import KernelStore.Store.Persist
import KernelStore.Store.Reader
import KernelStore.Text.Blank
import KernelStore.Text.Hexadecimal
import KernelStore.Text.Invisible
import KernelStore.Text.Padding
import KernelStore.Text.Quoted
import KernelStore.Text.Utf8
import KernelStore.Toml.Document
import KernelStore.Toml.Lexeme
import KernelStore.Toml.Node
import KernelStore.Toml.Number
import KernelStore.Toml.Value
import KernelStore.Word
import KernelStore.Proofs.Artifact.HeaderReading
import KernelStore.Proofs.Artifact.Names
import KernelStore.Proofs.Artifact.SectionLayout
import KernelStore.Proofs.Artifact.RecordReading
import KernelStore.Proofs.Artifact.Positions
import KernelStore.Proofs.Artifact.Format
import KernelStore.Proofs.Artifact.Acceptance
import KernelStore.Proofs.Artifact.RoundTrip
import KernelStore.Proofs.Artifact.Safety
import KernelStore.Proofs.Arena.Invariant
import KernelStore.Proofs.Arena.Ledger
import KernelStore.Proofs.Arena.Failure
import KernelStore.Proofs.Arena.Compaction
import KernelStore.Proofs.Arena.Fitting
import KernelStore.Proofs.Arena.Alignment
import KernelStore.Proofs.Arena.Protection
import KernelStore.Proofs.Slot.Addresses
import KernelStore.Proofs.Slot.Leasing
import KernelStore.Proofs.Slot.Occupancy
import KernelStore.Proofs.Slot.Exactness
import KernelStore.Proofs.FileTree.Changes
import KernelStore.Proofs.FileTree.Paths
import KernelStore.Proofs.FileTree.Parents
import KernelStore.Proofs.Store.Soundness
import KernelStore.Proofs.Store.Coherence
import KernelStore.Proofs.Store.Atomicity
import KernelStore.Proofs.Store.Reuse
import KernelStore.Proofs.Store.Holding
import KernelStore.Proofs.Store.Reporting
import KernelStore.Proofs.Store.Precision
import KernelStore.Proofs.Store.FunctionTable
import KernelStore.Proofs.Store.Agreement
import KernelStore.Proofs.Slot.Granting
import KernelStore.Proofs.Artifact.Tiling
import KernelStore.Proofs.Settings.Acceptance
import KernelStore.Proofs.Artifact.FileLayout
import KernelStore.Proofs.Artifact.Torn
import KernelStore.Proofs.Bytes.Lanes
import KernelStore.Proofs.Store.Differences
import KernelStore.Proofs.Artifact.Normalising
import KernelStore.Proofs.CommandLine.Verifying
import KernelStore.Proofs.Artifact.Pragmas
import KernelStore.Proofs.Digest.Streaming
import KernelStore.Proofs.Artifact.HeaderCodec
import KernelStore.Proofs.Artifact.Interning
import KernelStore.Proofs.Slot.Addressing
