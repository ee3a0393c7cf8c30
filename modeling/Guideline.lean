import Guideline.Allowance
import Guideline.Change.Diff
import Guideline.Change.Scope
import Guideline.Check.Finding
import Guideline.Check.Line
import Guideline.Check.Matcher
import Guideline.Check.Naming
import Guideline.Check.Structure
import Guideline.Collection.Sorted
import Guideline.Command.Arguments
import Guideline.Command.Check
import Guideline.Command.Configuration
import Guideline.Command.Help
import Guideline.Command.Init
import Guideline.Command.ListRules
import Guideline.Command.Outcome
import Guideline.Command.PullRequest
import Guideline.Command.Run
import Guideline.Command.Switch
import Guideline.Declaration.Attribute
import Guideline.Declaration.Signature
import Guideline.Declaration.Variable
import Guideline.Document.Json
import Guideline.Document.Json.Printer
import Guideline.Document.Json.Token
import Guideline.Document.Toml
import Guideline.Document.Toml.Scalar
import Guideline.Document.Toml.Token
import Guideline.Document.Toml.Tree
import Guideline.Document.Value
import Guideline.FileTree
import Guideline.Glob
import Guideline.Ignore.Glob
import Guideline.Ignore.Rule
import Guideline.Ignore.Walk
import Guideline.Main
import Guideline.Path
import Guideline.Pattern.Basic
import Guideline.Pattern.Bracket
import Guideline.Pattern.CharClass
import Guideline.Pattern.Escape
import Guideline.Pattern.Parser
import Guideline.Pattern.Regex
import Guideline.Pattern.Size
import Guideline.Report.Format
import Guideline.Report.Group
import Guideline.Report.Json
import Guideline.Report.Markdown
import Guideline.Report.Text
import Guideline.Review.Result
import Guideline.Review.Reviewer
import Guideline.Rule.Basic
import Guideline.Rule.Builtin
import Guideline.Rule.Definition
import Guideline.Rule.Id
import Guideline.Rule.Set
import Guideline.Rule.Validation
import Guideline.Settings
import Guideline.Source.File
import Guideline.Source.Head
import Guideline.Source.Mask
import Guideline.Source.Outline
import Guideline.Source.Scope
import Guideline.Source.Statement
import Guideline.Source.Token
import Guideline.Text.Affix
import Guideline.Text.Blank
import Guideline.Text.Digit
import Guideline.Text.Lines
import Guideline.Text.Utf8
import Guideline.Unicode.Age
import Guideline.Unicode.Alphanumeric
import Guideline.Unicode.Binary
import Guideline.Unicode.Break
import Guideline.Unicode.CaseFold
import Guideline.Unicode.Category
import Guideline.Unicode.Property
import Guideline.Unicode.Ranges
import Guideline.Unicode.Script
import Guideline.Unicode.ScriptExtension
import Guideline.Violation
import Guideline.Proofs.Change.Edit
import Guideline.Proofs.Text.Lines
import Guideline.Proofs.Text.Printed
import Guideline.Proofs.Change.Printed
import Guideline.Proofs.Change.Section
import Guideline.Proofs.Change.SingleFile
import Guideline.Proofs.Change.Composition
import Guideline.Proofs.Source.MaskText
import Guideline.Proofs.Text.Affix
import Guideline.Proofs.Source.Lexeme
import Guideline.Proofs.Source.LexemeMask
import Guideline.Proofs.Source.Brace
import Guideline.Proofs.Source.BlockMatching
import Guideline.Proofs.Collection.StableSort
import Guideline.Proofs.Text.ByteOrder
import Guideline.Proofs.Review.Order
import Guideline.Proofs.Review.Isolation
import Guideline.Proofs.Review.Scope
import Guideline.Proofs.Collection.Sorted
import Guideline.Proofs.Rule.Merge
import Guideline.Proofs.Source.MaskTrace
import Guideline.Proofs.Allowance
import Guideline.Proofs.Unicode.Blank
import Guideline.Proofs.Source.TokenPlace
import Guideline.Proofs.Source.Provenance
import Guideline.Proofs.Declaration.Named
import Guideline.Proofs.Check.NamePlace
import Guideline.Proofs.Source.StatementLine
import Guideline.Proofs.Source.Extension
import Guideline.Proofs.Check.FindingLine
import Guideline.Proofs.Check.Dispatch
import Guideline.Proofs.Check.Persistence
import Guideline.Proofs.Review.Failure
import Guideline.Proofs.Review.Origin
import Guideline.Proofs.FileTree
import Guideline.Proofs.Command.Reading
import Guideline.Proofs.Command.Run
import Guideline.Proofs.Command.Strictness
import Guideline.Proofs.Glob.Matching
import Guideline.Proofs.Glob.Directory
import Guideline.Proofs.Review.Exclusion
import Guideline.Proofs.Source.Continuation
import Guideline.Proofs.Source.StrayClose
import Guideline.Proofs.Pattern.Span
import Guideline.Proofs.Pattern.Keyword
import Guideline.Proofs.Declaration.FunctionHead
import Guideline.Proofs.Declaration.DeclaratorList
import Guideline.Proofs.Declaration.FirstVariable
import Guideline.Proofs.Declaration.Overlap
import Guideline.Proofs.Declaration.OperatorName
import Guideline.Proofs.Review.Deduplication
import Guideline.Proofs.Source.BracedGroup
import Guideline.Proofs.Source.BlockNesting
import Guideline.Proofs.Path.Components
import Guideline.Proofs.Change.NameQuoting
import Guideline.Proofs.Path.Place
import Guideline.Proofs.Ignore.Walk
import Guideline.Proofs.Review.Repetition
import Guideline.Proofs.Command.RepeatedPath
import Guideline.Proofs.Review.NoteScope
import Guideline.Proofs.Source.CodeStart
import Guideline.Proofs.WrittenAllowance
import Guideline.Proofs.Source.Tokenization
import Guideline.Proofs.Path.Spelling
import Guideline.Proofs.Change.Scope
import Guideline.Proofs.Report.Group
import Guideline.Proofs.Report.Details
import Guideline.Proofs.Document.Json
import Guideline.Proofs.Report.Json
import Guideline.Proofs.Source.MaskColumns
import Guideline.Proofs.Source.BracketDepth
import Guideline.Proofs.Source.LabelBytes
import Guideline.Proofs.Source.ByteBuilder
