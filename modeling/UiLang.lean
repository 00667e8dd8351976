import UiLang.Text.CodeRange
import UiLang.Text.Letter
import UiLang.Text.Printable
import UiLang.Text.CaseRuns
import UiLang.Text.Case
import UiLang.Text.Quoted
import UiLang.Token
import UiLang.Token.Scan
import UiLang.Program.Kinds
import UiLang.Program.Cell
import UiLang.Version
import UiLang.Syntax.Tree
import UiLang.Syntax.Cursor
import UiLang.Syntax.Parse
import UiLang.Program.Basic
import UiLang.Program.Build
import UiLang.Program.Load
import UiLang.Number.Binary64
import UiLang.Suggest.Distance
import UiLang.Suggest.Closest
import UiLang.Check.Diagnostic
import UiLang.Check.Names
import UiLang.Check.Views
import UiLang.Check.Properties
import UiLang.Check.Analyze
import UiLang.Jsx.Error
import UiLang.Jsx.Cells
import UiLang.Jsx.Values
import UiLang.Jsx.App
import UiLang.Reference.Patterns
import UiLang.Reference.Search
import UiLang.Reference.Render
import UiLang.Path
import UiLang.Config
import UiLang.Files.Error
import UiLang.Files.Host
import UiLang.Files.Machine
import UiLang.Project.Error
import UiLang.Project.Progress
import UiLang.Project.Pipeline
import UiLang.Yaml.Char
import UiLang.Yaml.Input
import UiLang.Yaml.Token
import UiLang.Yaml.Token.State
import UiLang.Yaml.Token.Scalar
import UiLang.Yaml.Token.Tag
import UiLang.Yaml.Token.Queue
import UiLang.Yaml.Event
import UiLang.Yaml.Event.Grammar
import UiLang.Yaml.Resolve
import UiLang.Yaml.Node
import UiLang.Yaml.Settings
import UiLang.Config.Load
import UiLang.Project.Init
import UiLang.Cli.Flag
import UiLang.Cli.Command
import UiLang.Cli.Commands
import UiLang.Cli.Run
import UiLang.Main
import UiLang.Proofs.Except
import UiLang.Proofs.Hoist
import UiLang.Proofs.Generate
import UiLang.Proofs.SingleCell
import UiLang.Proofs.Failures
import UiLang.Proofs.MissingProperty
import UiLang.Proofs.Declarations
import UiLang.Proofs.CheckedCalls
import UiLang.Proofs.NameResolution
import UiLang.Proofs.Segmentation
import UiLang.Proofs.Resolution
import UiLang.Proofs.BuildOutput
import UiLang.Proofs.Lexemes
import UiLang.Proofs.DecimalNumbers
import UiLang.Proofs.Printer
import UiLang.Proofs.ParseWritten
import UiLang.Proofs.ReadBack
import UiLang.Proofs.LoadWellFormed
import UiLang.Proofs.RoundTrip
import UiLang.Proofs.CellCoverage
import UiLang.Proofs.ZeroDivision
import UiLang.Proofs.Parameters
import UiLang.Proofs.ParsedNumbers
import UiLang.Proofs.DefaultView
import UiLang.Proofs.SearchRanking
import UiLang.Proofs.ScanFaults
import UiLang.Proofs.CursorLeads
import UiLang.Proofs.ParseRecovery
import UiLang.Proofs.BuildFailure
import UiLang.Proofs.AlignmentDistance
import UiLang.Proofs.ClosestCandidate
