import RecordSynthesis.CommandLine
import RecordSynthesis.Declaration.Source
import RecordSynthesis.Descriptor.Reader
import RecordSynthesis.Descriptor.Scalar
import RecordSynthesis.Dictionary
import RecordSynthesis.Document.Reader
import RecordSynthesis.Loading
import RecordSynthesis.Main
import RecordSynthesis.Model.Batch
import RecordSynthesis.Pass.Run
import RecordSynthesis.Proofs.Accounting
import RecordSynthesis.Proofs.Agreement
import RecordSynthesis.Proofs.Alignment
import RecordSynthesis.Proofs.Ambiguity
import RecordSynthesis.Proofs.Arguments
import RecordSynthesis.Proofs.Artifacts
import RecordSynthesis.Proofs.Calls
import RecordSynthesis.Proofs.Classification
import RecordSynthesis.Proofs.ClassifiedTypes
import RecordSynthesis.Proofs.Containment
import RecordSynthesis.Proofs.CycleSearch
import RecordSynthesis.Proofs.Discovery
import RecordSynthesis.Proofs.DottedNames
import RecordSynthesis.Proofs.Elaboration
import RecordSynthesis.Proofs.Execution
import RecordSynthesis.Proofs.ExternalNames
import RecordSynthesis.Proofs.FailedWrites
import RecordSynthesis.Proofs.FileTrees
import RecordSynthesis.Proofs.FilesAside
import RecordSynthesis.Proofs.GeneratedCode
import RecordSynthesis.Proofs.Generation
import RecordSynthesis.Proofs.Imports
import RecordSynthesis.Proofs.Locality
import RecordSynthesis.Proofs.LogLines
import RecordSynthesis.Proofs.MemberTypes
import RecordSynthesis.Proofs.Merging
import RecordSynthesis.Proofs.NestedPaths
import RecordSynthesis.Proofs.OrderIndependence
import RecordSynthesis.Proofs.PageLayout
import RecordSynthesis.Proofs.Paths
import RecordSynthesis.Proofs.Places
import RecordSynthesis.Proofs.PrintedTypes
import RecordSynthesis.Proofs.ReferenceClosure
import RecordSynthesis.Proofs.ReferenceGraph
import RecordSynthesis.Proofs.RoundTrip
import RecordSynthesis.Proofs.SearchPath
import RecordSynthesis.Proofs.Setters
import RecordSynthesis.Proofs.SpelledClasses
import RecordSynthesis.Proofs.StoredSources
import RecordSynthesis.Proofs.Sweeps
import RecordSynthesis.Proofs.Traversal
import RecordSynthesis.Proofs.TriggerProperties
import RecordSynthesis.Proofs.TypeFaults
import RecordSynthesis.Proofs.TypeGrammar
import RecordSynthesis.Proofs.TypeSpelling
import RecordSynthesis.Proofs.Verdicts
import RecordSynthesis.Proofs.WriteEffects
import RecordSynthesis.Settings
import RecordSynthesis.Snapshot.Cycle
import RecordSynthesis.Store.Artifact
import RecordSynthesis.Store.Directory
import RecordSynthesis.Store.Memory
import RecordSynthesis.Synthesis.Conversion
import RecordSynthesis.Synthesis.Implementation
import RecordSynthesis.Synthesis.Record
import RecordSynthesis.Text.LetterCase
import RecordSynthesis.Text.Segments
