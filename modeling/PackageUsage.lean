import PackageUsage.Collect
import PackageUsage.CommandLine
import PackageUsage.CommandLine.Argument
import PackageUsage.CommandLine.Help
import PackageUsage.Decimal.Shortest
import PackageUsage.Discovery
import PackageUsage.Discovery.Levels
import PackageUsage.Discovery.Walk
import PackageUsage.FileTree
import PackageUsage.Glob
import PackageUsage.IgnoreRules
import PackageUsage.Json.Basic
import PackageUsage.Json.Printer
import PackageUsage.Json.Reader
import PackageUsage.Language
import PackageUsage.Log
import PackageUsage.Main
import PackageUsage.Names
import PackageUsage.Path
import PackageUsage.Pattern.Expression
import PackageUsage.Pattern.Fault
import PackageUsage.Pattern.Meaning
import PackageUsage.Pattern.Reader
import PackageUsage.Program
import PackageUsage.Proofs.Collect
import PackageUsage.Proofs.CommandLine.Given
import PackageUsage.Proofs.CommandLine.Line
import PackageUsage.Proofs.CommandLine.Settling
import PackageUsage.Proofs.CommandLine.Verbosity
import PackageUsage.Proofs.Discovery.Excludes
import PackageUsage.Proofs.Discovery.Failure
import PackageUsage.Proofs.Discovery.Growth
import PackageUsage.Proofs.Discovery.IgnoreFiles
import PackageUsage.Proofs.Discovery.Includes
import PackageUsage.Proofs.Discovery.Order
import PackageUsage.Proofs.Discovery.OutputDirectories
import PackageUsage.Proofs.Discovery.Patterns
import PackageUsage.Proofs.Discovery.Relocation
import PackageUsage.Proofs.Discovery.Selection
import PackageUsage.Proofs.Discovery.Walk
import PackageUsage.Proofs.Discovery.Wildcards
import PackageUsage.Proofs.FileTree
import PackageUsage.Proofs.FileTree.Agreement
import PackageUsage.Proofs.FileTree.Growth
import PackageUsage.Proofs.FileTree.Held
import PackageUsage.Proofs.Glob
import PackageUsage.Proofs.Glob.Matching
import PackageUsage.Proofs.Glob.Segments
import PackageUsage.Proofs.Json.Layout
import PackageUsage.Proofs.Json.Reading
import PackageUsage.Proofs.Json.Token
import PackageUsage.Proofs.Names
import PackageUsage.Proofs.Names.FileOrder
import PackageUsage.Proofs.Names.Pieces
import PackageUsage.Proofs.Names.Reported
import PackageUsage.Proofs.Names.SortedSet
import PackageUsage.Proofs.Path
import PackageUsage.Proofs.Path.Names
import PackageUsage.Proofs.Pattern.Starts
import PackageUsage.Proofs.Program
import PackageUsage.Proofs.Program.Verbosity
import PackageUsage.Proofs.Regex
import PackageUsage.Proofs.Report
import PackageUsage.Proofs.Scan.Consumers
import PackageUsage.Proofs.Scan.Contribution
import PackageUsage.Proofs.Scan.History
import PackageUsage.Proofs.Scan.Isolation
import PackageUsage.Proofs.Scan.Languages
import PackageUsage.Proofs.Scan.Lines
import PackageUsage.Proofs.Scan.Narrowing
import PackageUsage.Proofs.Scan.Order
import PackageUsage.Proofs.Scan.Plan
import PackageUsage.Proofs.Scan.Precedence
import PackageUsage.Proofs.Scan.Relocation
import PackageUsage.Proofs.Scan.Session
import PackageUsage.Proofs.Scan.Soundness
import PackageUsage.Proofs.Settings
import PackageUsage.Proofs.Source.Address
import PackageUsage.Proofs.Source.BoundNames
import PackageUsage.Proofs.Source.Cursor
import PackageUsage.Proofs.Source.Declared
import PackageUsage.Proofs.Source.Exports
import PackageUsage.Proofs.Source.Expressions
import PackageUsage.Proofs.Source.Fault
import PackageUsage.Proofs.Source.Forward.Basic
import PackageUsage.Proofs.Source.Forward.Kit
import PackageUsage.Proofs.Source.Forward.Lexemes
import PackageUsage.Proofs.Source.Forward.Reached
import PackageUsage.Proofs.Source.Forward.Sources
import PackageUsage.Proofs.Source.Forward.State
import PackageUsage.Proofs.Source.Forward.Trees
import PackageUsage.Proofs.Source.Identifiers
import PackageUsage.Proofs.Source.Imports
import PackageUsage.Proofs.Source.Item
import PackageUsage.Proofs.Source.LineBreaks
import PackageUsage.Proofs.Source.LineStarts
import PackageUsage.Proofs.Source.Lists
import PackageUsage.Proofs.Source.Names
import PackageUsage.Proofs.Source.Onward
import PackageUsage.Proofs.Source.Reading
import PackageUsage.Proofs.Source.Repair
import PackageUsage.Proofs.Source.RoundTrip
import PackageUsage.Proofs.Source.Rounds
import PackageUsage.Proofs.Source.Rules.Expressions
import PackageUsage.Proofs.Source.Rules.Statements
import PackageUsage.Proofs.Source.Rules.Types
import PackageUsage.Proofs.Source.Specifiers
import PackageUsage.Proofs.Source.Spelling
import PackageUsage.Proofs.Source.Token
import PackageUsage.Proofs.Source.Trivia
import PackageUsage.Proofs.Source.Walk
import PackageUsage.Proofs.Target
import PackageUsage.Proofs.Text
import PackageUsage.Proofs.Toml.Document
import PackageUsage.Proofs.Toml.Kept
import PackageUsage.Proofs.Toml.Reading
import PackageUsage.Proofs.Toml.Spelling
import PackageUsage.Record
import PackageUsage.Record.Json
import PackageUsage.Regex
import PackageUsage.Regex.Size
import PackageUsage.Report
import PackageUsage.Scan
import PackageUsage.Scan.Plan
import PackageUsage.Settings
import PackageUsage.Settings.File
import PackageUsage.Source.Cursor
import PackageUsage.Source.Declaration
import PackageUsage.Source.Dialect
import PackageUsage.Source.Fault
import PackageUsage.Source.Grammar
import PackageUsage.Source.Grammar.Basic
import PackageUsage.Source.Grammar.Classes
import PackageUsage.Source.Grammar.Expressions
import PackageUsage.Source.Grammar.Markup
import PackageUsage.Source.Grammar.Modules
import PackageUsage.Source.Grammar.Statements
import PackageUsage.Source.Grammar.Types
import PackageUsage.Source.Lexeme
import PackageUsage.Source.Parse
import PackageUsage.Source.Parser
import PackageUsage.Source.Repair
import PackageUsage.Source.Tree
import PackageUsage.Source.Verdict
import PackageUsage.Source.Walk
import PackageUsage.Target
import PackageUsage.Text.Blank
import PackageUsage.Text.Quoted
import PackageUsage.Toml.Basic
import PackageUsage.Toml.Document
import PackageUsage.Toml.Reader
import PackageUsage.Unicode.Category
import PackageUsage.Unicode.Folding
import PackageUsage.Unicode.Identifier
import PackageUsage.Unicode.Property
import PackageUsage.Unicode.Ranges
import PackageUsage.Unicode.Script
