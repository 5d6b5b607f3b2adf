import TreeLint.Analysis.Files
import TreeLint.Analysis.Result
import TreeLint.Analysis.Source
import TreeLint.Checks.Builtin
import TreeLint.Checks.EmptyStatement
import TreeLint.Checks.InheritanceDepth
import TreeLint.Checks.ThreadRun
import TreeLint.Cli.Arguments
import TreeLint.Cli.Run
import TreeLint.Cli.Usage
import TreeLint.Config.Basic
import TreeLint.Config.Glob
import TreeLint.Config.Load
import TreeLint.Config.RuleSet
import TreeLint.Config.Template
import TreeLint.Files.Disk
import TreeLint.Files.Path
import TreeLint.InPlace
import TreeLint.Java.Concrete
import TreeLint.Java.Form
import TreeLint.Java.Grammar
import TreeLint.Java.Grammar.Declarations
import TreeLint.Java.Grammar.Expressions
import TreeLint.Java.Grammar.Types
import TreeLint.Java.Lexeme
import TreeLint.Java.Lowering
import TreeLint.Java.Parse
import TreeLint.Java.Parser
import TreeLint.Java.Platform
import TreeLint.Java.Resolution
import TreeLint.Java.TypeName
import TreeLint.Json.Basic
import TreeLint.Json.Encode
import TreeLint.Json.Parse
import TreeLint.Json.Record
import TreeLint.Main
import TreeLint.Proofs.Accord
import TreeLint.Proofs.Accounts
import TreeLint.Proofs.Agreement
import TreeLint.Proofs.Alike
import TreeLint.Proofs.Ancestors
import TreeLint.Proofs.Apart
import TreeLint.Proofs.Assembling
import TreeLint.Proofs.Blanks
import TreeLint.Proofs.Blocks
import TreeLint.Proofs.Bodies
import TreeLint.Proofs.BuiltTypes
import TreeLint.Proofs.Calls
import TreeLint.Proofs.Coherence
import TreeLint.Proofs.Collecting
import TreeLint.Proofs.Containers
import TreeLint.Proofs.Declared
import TreeLint.Proofs.Depths
import TreeLint.Proofs.Derivations
import TreeLint.Proofs.Dispatch
import TreeLint.Proofs.Enclosed
import TreeLint.Proofs.Enrolling
import TreeLint.Proofs.Entries
import TreeLint.Proofs.Extents
import TreeLint.Proofs.Externals
import TreeLint.Proofs.Headers
import TreeLint.Proofs.Isolation
import TreeLint.Proofs.Journal
import TreeLint.Proofs.JsonText
import TreeLint.Proofs.Keeping
import TreeLint.Proofs.Layout
import TreeLint.Proofs.Leaves
import TreeLint.Proofs.Lifecycle
import TreeLint.Proofs.Lineage
import TreeLint.Proofs.Lines
import TreeLint.Proofs.Linking
import TreeLint.Proofs.Literals
import TreeLint.Proofs.Lockstep
import TreeLint.Proofs.LogText
import TreeLint.Proofs.Lowered
import TreeLint.Proofs.Members
import TreeLint.Proofs.Mentions
import TreeLint.Proofs.Merging
import TreeLint.Proofs.Naming
import TreeLint.Proofs.Nodes
import TreeLint.Proofs.Numbering
import TreeLint.Proofs.Objections
import TreeLint.Proofs.Outcome
import TreeLint.Proofs.OwnLines
import TreeLint.Proofs.PathNames
import TreeLint.Proofs.Phrases
import TreeLint.Proofs.Platform
import TreeLint.Proofs.Productions
import TreeLint.Proofs.Reader
import TreeLint.Proofs.Reading
import TreeLint.Proofs.Reargued
import TreeLint.Proofs.Recursive
import TreeLint.Proofs.Refusals
import TreeLint.Proofs.Renderings
import TreeLint.Proofs.Reordered
import TreeLint.Proofs.ReportText
import TreeLint.Proofs.Reporting
import TreeLint.Proofs.Resolved
import TreeLint.Proofs.Roles
import TreeLint.Proofs.RoundTrip
import TreeLint.Proofs.Rows
import TreeLint.Proofs.SameLineage
import TreeLint.Proofs.SameNames
import TreeLint.Proofs.Scaffold
import TreeLint.Proofs.Scoping
import TreeLint.Proofs.Scripts
import TreeLint.Proofs.Selection
import TreeLint.Proofs.Semicolons
import TreeLint.Proofs.Settings
import TreeLint.Proofs.Settled
import TreeLint.Proofs.Shapes
import TreeLint.Proofs.Shares
import TreeLint.Proofs.Silencing
import TreeLint.Proofs.Sites
import TreeLint.Proofs.Spans
import TreeLint.Proofs.Spelled
import TreeLint.Proofs.Spotting
import TreeLint.Proofs.Stemming
import TreeLint.Proofs.Strays
import TreeLint.Proofs.Superclasses
import TreeLint.Proofs.TableCalls
import TreeLint.Proofs.TableRefusals
import TreeLint.Proofs.TextLines
import TreeLint.Proofs.Threads
import TreeLint.Proofs.Transcripts
import TreeLint.Proofs.TwinTables
import TreeLint.Proofs.Twins
import TreeLint.Proofs.TypeArguments
import TreeLint.Proofs.TypeNames
import TreeLint.Proofs.Unfailing
import TreeLint.Proofs.Verbatim
import TreeLint.Proofs.Visit
import TreeLint.Proofs.Walk
import TreeLint.Proofs.Words
import TreeLint.Proofs.Written
import TreeLint.Report.Json
import TreeLint.Report.Pretty
import TreeLint.Report.Sarif
import TreeLint.Rule.Basic
import TreeLint.Rule.Context
import TreeLint.Rule.InPlace
import TreeLint.Rule.Issue
import TreeLint.Rule.Run
import TreeLint.Rule.Scan
import TreeLint.Rule.Sink
import TreeLint.Suppression.Directive
import TreeLint.Symbols.Ancestry
import TreeLint.Symbols.InPlace
import TreeLint.Symbols.Table
import TreeLint.Text.Blank
import TreeLint.Text.Decimal
import TreeLint.Text.Hex
import TreeLint.Text.Hidden
import TreeLint.Text.Letter
import TreeLint.Text.Lines
import TreeLint.Text.Quoted
import TreeLint.Traversal.Subscription
import TreeLint.Traversal.Walk
import TreeLint.Tree.Basic
import TreeLint.Tree.Builder
import TreeLint.Tree.InPlace
import TreeLint.Tree.Kind
import TreeLint.Tree.Nested
import TreeLint.Tree.Span
import TreeLint.Yaml.Cursor
import TreeLint.Yaml.Parse
import TreeLint.Yaml.Scalar
import TreeLint.Yaml.Scan
import TreeLint.Yaml.Value
