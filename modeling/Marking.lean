import Marking.DatedResult
import Marking.Harness.Directory
import Marking.Proofs.Comment.Lines
import Marking.Proofs.Comment.TripleQuoted
import Marking.Proofs.DatedResult.Written
import Marking.Proofs.Harness.Builtin
import Marking.Proofs.Harness.Catalog
import Marking.Proofs.Harness.Directory
import Marking.Proofs.Harness.History
import Marking.Proofs.Harness.Interpolation
import Marking.Proofs.Harness.Message
import Marking.Proofs.Harness.Rejection
import Marking.Proofs.Harness.Substitution
import Marking.Proofs.Marker.Commentary
import Marking.Proofs.Marker.Run
import Marking.Proofs.Marker.Session
import Marking.Proofs.Record.Feedback
import Marking.Proofs.Record.Message
import Marking.Proofs.Record.PassFlag
import Marking.Proofs.Record.Timeout
import Marking.Proofs.Record.Verdict
import Marking.Proofs.Report.Channel
import Marking.Proofs.Report.Literal
import Marking.Proofs.Report.Reading
import Marking.Proofs.Rule.Alternatives
import Marking.Proofs.Rule.NamePattern
import Marking.Proofs.Rule.PlainText
import Marking.Proofs.Rule.Requirement
import Marking.Proofs.Rule.Standalone
import Marking.Proofs.Rule.Stripped
import Marking.Proofs.Rule.Subject
import Marking.Proofs.Rule.Writing
import Marking.Proofs.Settings.LastChange
import Marking.Proofs.Template.Layout
import Marking.Proofs.Template.Phrase
import Marking.Proofs.Template.Word
import Marking.Proofs.TestCase.ArrayValue
import Marking.Proofs.TestCase.Written
import Marking.Settings
import Marking.TestCase.Loading
