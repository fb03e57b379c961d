import ComplianceTriage.CommandLine.Options
import ComplianceTriage.CommandLine.Reading
import ComplianceTriage.Config.Basic
import ComplianceTriage.Config.Reading
import ComplianceTriage.Decimal.Double
import ComplianceTriage.Decimal.Reading
import ComplianceTriage.DesiredState.Index
import ComplianceTriage.DesiredState.Matching
import ComplianceTriage.Failure
import ComplianceTriage.Hub.Access
import ComplianceTriage.Hub.Manifests
import ComplianceTriage.Hub.Session
import ComplianceTriage.Hub.Store
import ComplianceTriage.Hub.Window
import ComplianceTriage.Main
import ComplianceTriage.Manifest.Cursor
import ComplianceTriage.Manifest.Fault
import ComplianceTriage.Manifest.Meaning
import ComplianceTriage.Manifest.Node
import ComplianceTriage.Manifest.Plain
import ComplianceTriage.Manifest.Printable
import ComplianceTriage.Manifest.Property
import ComplianceTriage.Manifest.Reading
import ComplianceTriage.Manifest.Scalar
import ComplianceTriage.Manifest.Token
import ComplianceTriage.Manifest.TokenStream
import ComplianceTriage.Message.Resource
import ComplianceTriage.Message.Verdict
import ComplianceTriage.Program
import ComplianceTriage.Proofs.Agreement
import ComplianceTriage.Proofs.Arrangement
import ComplianceTriage.Proofs.ByteOrder
import ComplianceTriage.Proofs.Cancellation
import ComplianceTriage.Proofs.ClusterFilter
import ComplianceTriage.Proofs.Coherence
import ComplianceTriage.Proofs.Concurrency
import ComplianceTriage.Proofs.Course
import ComplianceTriage.Proofs.Declarations
import ComplianceTriage.Proofs.Excerpts
import ComplianceTriage.Proofs.Extraction
import ComplianceTriage.Proofs.Faithfulness
import ComplianceTriage.Proofs.FollowUp
import ComplianceTriage.Proofs.Insertion
import ComplianceTriage.Proofs.Interleaving
import ComplianceTriage.Proofs.Isolation
import ComplianceTriage.Proofs.LetterCase
import ComplianceTriage.Proofs.Matching
import ComplianceTriage.Proofs.OneCluster
import ComplianceTriage.Proofs.Packaging
import ComplianceTriage.Proofs.PhraseKinds
import ComplianceTriage.Proofs.Precedence
import ComplianceTriage.Proofs.Readback
import ComplianceTriage.Proofs.Rendering
import ComplianceTriage.Proofs.Resolution
import ComplianceTriage.Proofs.RoundTrip
import ComplianceTriage.Proofs.Subscriptions
import ComplianceTriage.Proofs.Survey
import ComplianceTriage.Proofs.Tokens
import ComplianceTriage.Proofs.Truncation
import ComplianceTriage.Proofs.UnservedKinds
import ComplianceTriage.Proofs.Window
import ComplianceTriage.Report.Basic
import ComplianceTriage.Report.Encoding
import ComplianceTriage.Signal.Channel
import ComplianceTriage.Text.Blank
import ComplianceTriage.Text.CaseTable
import ComplianceTriage.Text.Concealed
import ComplianceTriage.Text.Digits
import ComplianceTriage.Text.Lower
import ComplianceTriage.Text.Quoted
import ComplianceTriage.Text.Search
import ComplianceTriage.Toml.Bare
import ComplianceTriage.Toml.Fault
import ComplianceTriage.Toml.Item
import ComplianceTriage.Toml.Quoted
import ComplianceTriage.Toml.Reading
import ComplianceTriage.Triage.Diagnosis
import ComplianceTriage.Triage.Inspection
import ComplianceTriage.Triage.Resolution
import ComplianceTriage.Triage.Run
import ComplianceTriage.Triage.Settings
import ComplianceTriage.Triage.Status
import ComplianceTriage.Triage.Suggestion
import ComplianceTriage.Value.Basic
import ComplianceTriage.Value.Layout
import ComplianceTriage.Value.Path
