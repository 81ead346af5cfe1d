import SyntaxAdvisor.Text.Ranges
import SyntaxAdvisor.Text.Surrogate
import SyntaxAdvisor.Text.CharNameTable
import SyntaxAdvisor.Text.CharNames
import SyntaxAdvisor.Text.Identifier
import SyntaxAdvisor.Python.Token
import SyntaxAdvisor.Python.Lexer
import SyntaxAdvisor.Python.Syntax.Value
import SyntaxAdvisor.Python.Syntax.Rule
import SyntaxAdvisor.Python.Syntax.Build
import SyntaxAdvisor.Python.Syntax.Statements
import SyntaxAdvisor.Python.Syntax.Parameters
import SyntaxAdvisor.Python.Syntax.Patterns
import SyntaxAdvisor.Python.Syntax.Expressions
import SyntaxAdvisor.Python.Syntax.Mistakes
import SyntaxAdvisor.Python.Syntax.Table
import SyntaxAdvisor.Python.Syntax.Engine
import SyntaxAdvisor.Python.StringLiteral
import SyntaxAdvisor.Python.Verdict
import SyntaxAdvisor.Text.Blank
import SyntaxAdvisor.Text.LineBreak
import SyntaxAdvisor.Text.Printable
import SyntaxAdvisor.Text.Digit
import SyntaxAdvisor.Text.Lowercase
import SyntaxAdvisor.Text.CaseContext
import SyntaxAdvisor.Text.Alphanumeric
import SyntaxAdvisor.Decimal.Binary
import SyntaxAdvisor.Decimal.Shortest
import SyntaxAdvisor.Decimal.Nearest
import SyntaxAdvisor.Decimal.Fixed
import SyntaxAdvisor.Decimal.Notation
import SyntaxAdvisor.Calendar
import SyntaxAdvisor.Value.Basic
import SyntaxAdvisor.Text.Utf8
import SyntaxAdvisor.Text.Chunked
import SyntaxAdvisor.Failure
import SyntaxAdvisor.Calendar.IsoText
import SyntaxAdvisor.Path
import SyntaxAdvisor.Value.Number
import SyntaxAdvisor.Value.Access
import SyntaxAdvisor.Order.RunSort
import SyntaxAdvisor.Value.Hash
import SyntaxAdvisor.Value.Shared
import SyntaxAdvisor.Report.Event
import SyntaxAdvisor.Report.Snippet
import SyntaxAdvisor.Scan.Detector
import SyntaxAdvisor.Scan.Analysis
import SyntaxAdvisor.Sample
import SyntaxAdvisor.Text.Search
import SyntaxAdvisor.Disk
import SyntaxAdvisor.Scan.Project
import SyntaxAdvisor.Scan.Context
import SyntaxAdvisor.Decimal.Reading
import SyntaxAdvisor.Report.Stored
import SyntaxAdvisor.Advice.Reply
import SyntaxAdvisor.Advice.Recommendation
import SyntaxAdvisor.Advice.Prompt
import SyntaxAdvisor.Advice.Network
import SyntaxAdvisor.Advice.Provider
import SyntaxAdvisor.Advice.Worker
import SyntaxAdvisor.Text.Base64
import SyntaxAdvisor.Environment
import SyntaxAdvisor.Yaml.Mark
import SyntaxAdvisor.Yaml.Token
import SyntaxAdvisor.Yaml.Stack
import SyntaxAdvisor.Yaml.Token.Stream
import SyntaxAdvisor.Yaml.Event
import SyntaxAdvisor.Yaml.Timestamp
import SyntaxAdvisor.Yaml.Tag
import SyntaxAdvisor.Yaml.Node
import SyntaxAdvisor.Yaml.Document
import SyntaxAdvisor.Yaml.Load
import SyntaxAdvisor.Yaml.Tree
import SyntaxAdvisor.Yaml.Print
import SyntaxAdvisor.Settings.Basic
import SyntaxAdvisor.Settings.Load
import SyntaxAdvisor.Settings.Session
import SyntaxAdvisor.Text.Similarity
import SyntaxAdvisor.CommandLine.Spec
import SyntaxAdvisor.CommandLine.Parse
import SyntaxAdvisor.Commands.Console
import SyntaxAdvisor.Commands.Check
import SyntaxAdvisor.Commands.Setup
import SyntaxAdvisor.Commands.Status
import SyntaxAdvisor.Commands.Run
import SyntaxAdvisor.Main
import SyntaxAdvisor.Proofs.IntValues
import SyntaxAdvisor.Proofs.SnippetRows
import SyntaxAdvisor.Proofs.LineChecks
import SyntaxAdvisor.Proofs.TextLines
import SyntaxAdvisor.Proofs.PatternWindow
import SyntaxAdvisor.Proofs.FileContext
import SyntaxAdvisor.Proofs.RecommendationBuilder
import SyntaxAdvisor.Proofs.IsoRoundTrip
import SyntaxAdvisor.Proofs.ReportRoundTrip
import SyntaxAdvisor.Proofs.ConfiguredServices
import SyntaxAdvisor.Proofs.CheckDisplay
import SyntaxAdvisor.Proofs.CheckReport
import SyntaxAdvisor.Proofs.SharedTrees
import SyntaxAdvisor.Proofs.SettingsOverrides
import SyntaxAdvisor.Proofs.SettingsSources
import SyntaxAdvisor.Proofs.LocatedPaths
import SyntaxAdvisor.Proofs.LineLocality
import SyntaxAdvisor.Proofs.ConfiguredFromEnvironment
import SyntaxAdvisor.Proofs.DotenvSetup
import SyntaxAdvisor.Proofs.StoredKeys
import SyntaxAdvisor.Proofs.SettingsFileSetup
import SyntaxAdvisor.Proofs.SnippetWindow
import SyntaxAdvisor.Proofs.AdviceOutcome
import SyntaxAdvisor.Proofs.SourceDiscovery
import SyntaxAdvisor.Proofs.ExactDoubles
import SyntaxAdvisor.Proofs.ShortestDigits
import SyntaxAdvisor.Proofs.NearestDouble
import SyntaxAdvisor.Proofs.FloatText
import SyntaxAdvisor.Proofs.ReplyFormat
import SyntaxAdvisor.Proofs.BracketBalance
import SyntaxAdvisor.Proofs.AcceptedLines
import SyntaxAdvisor.Proofs.SkippedSources
