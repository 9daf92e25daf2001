import Certification.Text.Blank
import Certification.Text.Utf8
import Certification.Text.LowerCase
import Certification.Text.Quoted
import Certification.Number.Shortest
import Certification.Json.Basic
import Certification.Json.Reader
import Certification.Json.Decode
import Certification.Json.Record
import Certification.Path.Lookup
import Certification.Identifier
import Certification.Assertion.Error
import Certification.Suite.Spec
import Certification.Contract
import Certification.Workflow.Codec
import Certification.Suite.Settings
import Certification.Resolver.Trial
import Certification.Observation.Observe
import Certification.Target
import Certification.Check.Basic
import Certification.Verdict
import Certification.Time.Timestamp
import Certification.Files.Disk
import Certification.Report
import Certification.Observation.Codec
import Certification.Resolver.Scripted
import Certification.Resolver.Program
import Certification.Toml.Reader
import Certification.Command.Certify
import Certification.Resolver.Transcript
import Certification.Main
import Certification.Proofs.Suite.Bookkeeping
import Certification.Proofs.Suite.FailFast
import Certification.Proofs.Suite.Containment
import Certification.Proofs.Suite.Independence
import Certification.Proofs.Suite.Canonical
import Certification.Proofs.Observation.Rounds
import Certification.Proofs.Check.Malformed
import Certification.Proofs.Workflow.Reprint
import Certification.Proofs.Suite.Entry
import Certification.Proofs.Suite.Routing
import Certification.Proofs.Suite.Observed
import Certification.Proofs.Check.Members
import Certification.Proofs.Resolver.Ensures
import Certification.Proofs.Resolver.Recording
import Certification.Proofs.Suite.Projection
import Certification.Proofs.Files.Stem
import Certification.Proofs.Suite.Declared
import Certification.Proofs.Command.Declaration
import Certification.Proofs.Command.Published
import Certification.Proofs.Command.Verdicts
import Certification.Proofs.Json.Printed
import Certification.Proofs.Json.LastLine
import Certification.Proofs.Json.Whole
import Certification.Proofs.Resolver.Thrown
import Certification.Proofs.Text.Runs
import Certification.Proofs.Path.Grammar
import Certification.Proofs.Path.Display
import Certification.Proofs.Number.Interval
import Certification.Proofs.Number.Numeral
import Certification.Proofs.Number.Written
import Certification.Proofs.Json.Distinct
import Certification.Proofs.Check.Deterministic
import Certification.Proofs.Path.Walk
import Certification.Proofs.Number.Rounded
import Certification.Proofs.Contract.Failures
import Certification.Proofs.Observation.Thrown
import Certification.Proofs.Observation.Retry
import Certification.Proofs.Observation.Rejection
import Certification.Proofs.Text.LowerCase
import Certification.Proofs.Check.Warnings
import Certification.Proofs.Workflow.Tree
import Certification.Proofs.Check.Status
import Certification.Proofs.Workflow.Respelled
import Certification.Proofs.Check.WarningList
import Certification.Proofs.Check.Steps
import Certification.Proofs.Json.Same
import Certification.Proofs.Json.Gathered
import Certification.Proofs.Check.FieldValue
import Certification.Proofs.Check.Policies
import Certification.Proofs.Contract.Valid
import Certification.Proofs.Number.Order
import Certification.Proofs.Check.Threshold
import Certification.Proofs.Json.Indented
import Certification.Proofs.Command.JsonMode
import Certification.Proofs.Path.Interchange
import Certification.Proofs.Contract.Saturated
import Certification.Proofs.Check.Shape
