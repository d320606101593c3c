import SwiftLinter.Analysis
import SwiftLinter.CommandLine.Run
import SwiftLinter.Main
import SwiftLinter.Project
import SwiftLinter.Proofs.Analysis.Isolation
import SwiftLinter.Proofs.Declaration.Nesting
import SwiftLinter.Proofs.Project
import SwiftLinter.Proofs.Settings.Precedence
import SwiftLinter.Report.Delivery
import SwiftLinter.Rule.Name
import SwiftLinter.Settings.Scope
import SwiftLinter.Proofs.Declaration.Continuation
import SwiftLinter.Proofs.ProjectRoot
import SwiftLinter.Proofs.Declaration.Parameters
import SwiftLinter.Proofs.Text.Integer
import SwiftLinter.Proofs.Settings.Acceptance
import SwiftLinter.Proofs.Report.Results
import SwiftLinter.Proofs.Report.Verdict
import SwiftLinter.Proofs.Declaration.Segments
import SwiftLinter.Proofs.Settings.Reach
import SwiftLinter.Proofs.Pattern.Fits
import SwiftLinter.Proofs.Rule.Comma
import SwiftLinter.Proofs.Rule.Parentheses
import SwiftLinter.Proofs.Text.WordRun
import SwiftLinter.Proofs.Declaration.NameTuple
import SwiftLinter.Proofs.Declaration.Clause
import SwiftLinter.Proofs.Declaration.Names
import SwiftLinter.Proofs.Rule.Naming
import SwiftLinter.Proofs.Rule.Arrow
import SwiftLinter.Proofs.Rule.OpeningBrace
import SwiftLinter.Proofs.Text.Lines
import SwiftLinter.Proofs.Pattern.Locality
import SwiftLinter.Proofs.Pattern.Longest
import SwiftLinter.Proofs.Rule.LineLocality
import SwiftLinter.Proofs.Rule.BlankLines
import SwiftLinter.Proofs.Pattern.WholeWord
import SwiftLinter.Proofs.Rule.Complexity
import SwiftLinter.Proofs.Rule.LineEnd
import SwiftLinter.Proofs.Rule.Literal
import SwiftLinter.Proofs.Rule.Limits
import SwiftLinter.Proofs.Files.Search
import SwiftLinter.Proofs.Rule.TextEnd
import SwiftLinter.Proofs.Report.Console
import SwiftLinter.Proofs.Json.Decoder
import SwiftLinter.Proofs.Files.Writing
import SwiftLinter.Proofs.Json.RoundTrip
import SwiftLinter.Proofs.Report.Reading
import SwiftLinter.Proofs.Declaration.Signature
import SwiftLinter.Proofs.Declaration.Search
