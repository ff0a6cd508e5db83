import TextMate.Batch
import TextMate.Build
import TextMate.CommandLine.Arguments
import TextMate.CommandLine.Run
import TextMate.Decompile
import TextMate.Diagnostic
import TextMate.Disk.Access
import TextMate.Disk.Basic
import TextMate.Disk.OsError
import TextMate.Disk.Path
import TextMate.Document
import TextMate.Document.Reader
import TextMate.Error
import TextMate.Export
import TextMate.Field
import TextMate.Formatter
import TextMate.Formatter.Script.Arithmetic
import TextMate.Formatter.Script.Builtin
import TextMate.Formatter.Script.Command
import TextMate.Formatter.Script.Escape
import TextMate.Formatter.Script.Execution
import TextMate.Formatter.Script.Expansion
import TextMate.Formatter.Script.Glob
import TextMate.Formatter.Script.Launch
import TextMate.Formatter.Script.Meaning
import TextMate.Formatter.Script.Number
import TextMate.Formatter.Script.Redirect
import TextMate.Formatter.Script.Shell
import TextMate.Formatter.Script.Signal
import TextMate.Formatter.Script.Start
import TextMate.Formatter.Script.Token
import TextMate.Formatter.Script.Tool.Condition
import TextMate.Formatter.Script.Tool.Edit
import TextMate.Formatter.Script.Tool.Files
import TextMate.Formatter.Script.Tool.Filter
import TextMate.Formatter.Script.Tool.Order
import TextMate.Formatter.Script.Tool.Print
import TextMate.Formatter.Script.Tool.Regex
import TextMate.Formatter.Script.Tool.Search
import TextMate.Formatter.Script.Tool.Source
import TextMate.Formatter.Script.Word
import TextMate.Formatter.Style
import TextMate.Grammar
import TextMate.Import
import TextMate.Json.Binary64
import TextMate.Json.Decimal
import TextMate.Json.Fault
import TextMate.Json.Lexer
import TextMate.Json.Printer
import TextMate.Json.Reader
import TextMate.Json.Value
import TextMate.Main
import TextMate.Oniguruma.Callout
import TextMate.Oniguruma.CharClass
import TextMate.Oniguruma.Check
import TextMate.Oniguruma.Escape
import TextMate.Oniguruma.GroupName
import TextMate.Oniguruma.Length
import TextMate.Oniguruma.Letter
import TextMate.Oniguruma.LookBehind
import TextMate.Oniguruma.Node
import TextMate.Oniguruma.Parser
import TextMate.Oniguruma.Property
import TextMate.Oniguruma.PropertyTable
import TextMate.Oniguruma.Recursion
import TextMate.Oniguruma.Reference
import TextMate.Oniguruma.Refusal
import TextMate.Oniguruma.Repeat
import TextMate.Oniguruma.Token
import TextMate.Pattern
import TextMate.Proofs.Batch
import TextMate.Proofs.Batch.Listing
import TextMate.Proofs.Batch.Report
import TextMate.Proofs.Build.ConfigFiles
import TextMate.Proofs.Build.Confined
import TextMate.Proofs.Build.GrammarFile
import TextMate.Proofs.Build.Outcome
import TextMate.Proofs.Computation
import TextMate.Proofs.Decompile.Failure
import TextMate.Proofs.Decompile.Leaves
import TextMate.Proofs.Decompile.Outcome
import TextMate.Proofs.Decompile.Units
import TextMate.Proofs.Disk.Access
import TextMate.Proofs.Disk.Alike
import TextMate.Proofs.Disk.Confined
import TextMate.Proofs.Disk.Copy
import TextMate.Proofs.Disk.Entries
import TextMate.Proofs.Disk.Folders
import TextMate.Proofs.Disk.LongPath
import TextMate.Proofs.Disk.Path
import TextMate.Proofs.Disk.Rooted
import TextMate.Proofs.Disk.Tree
import TextMate.Proofs.Disk.Walk
import TextMate.Proofs.Document.Exported
import TextMate.Proofs.Document.ReadBack
import TextMate.Proofs.Document.ReadRules
import TextMate.Proofs.Document.ReadWithin
import TextMate.Proofs.Document.RoundTrip
import TextMate.Proofs.Document.Within
import TextMate.Proofs.Grammar.Include
import TextMate.Proofs.Grammar.Repository
import TextMate.Proofs.Grammar.Shape
import TextMate.Proofs.Grammar.Site
import TextMate.Proofs.Import.Account
import TextMate.Proofs.Import.Appends
import TextMate.Proofs.Import.Assemble
import TextMate.Proofs.Import.CanonicalKeys
import TextMate.Proofs.Import.Describes
import TextMate.Proofs.Import.DocumentAccount
import TextMate.Proofs.Import.DocumentWalk
import TextMate.Proofs.Import.ErrorFlag
import TextMate.Proofs.Import.Events
import TextMate.Proofs.Import.Fields
import TextMate.Proofs.Import.Follows
import TextMate.Proofs.Import.GroupIndex
import TextMate.Proofs.Import.Groups
import TextMate.Proofs.Import.KeyOrder
import TextMate.Proofs.Import.Lack
import TextMate.Proofs.Import.Lasting
import TextMate.Proofs.Import.Leftover
import TextMate.Proofs.Import.Location
import TextMate.Proofs.Import.Loss
import TextMate.Proofs.Import.Nested
import TextMate.Proofs.Import.Prune
import TextMate.Proofs.Import.Reach
import TextMate.Proofs.Import.Refused
import TextMate.Proofs.Import.RootFields
import TextMate.Proofs.Import.RoundTrip
import TextMate.Proofs.Import.Shape
import TextMate.Proofs.Import.Walk
import TextMate.Proofs.Json.Depth
import TextMate.Proofs.Json.Numbers
import TextMate.Proofs.Json.ReadBack
import TextMate.Proofs.Json.ReadNumber
import TextMate.Proofs.Json.ReadString
import TextMate.Proofs.Json.ReadWithin
import TextMate.Proofs.Json.Value
import TextMate.Proofs.Json.Within
import TextMate.Proofs.Lookup
import TextMate.Proofs.Normalize
import TextMate.Proofs.Pattern
import TextMate.Proofs.Pattern.Reference
import TextMate.Proofs.Pattern.Text
import TextMate.Proofs.Rule.Access
import TextMate.Proofs.Rule.Every
import TextMate.Proofs.Rule.MapPatterns
import TextMate.Proofs.Rule.Object
import TextMate.Proofs.Rule.Same
import TextMate.Proofs.Rule.Trail
import TextMate.Proofs.Rule.Visit
import TextMate.Proofs.Source.Collision
import TextMate.Proofs.Source.Evaluation
import TextMate.Proofs.Source.GrammarValue
import TextMate.Proofs.Source.Identifier
import TextMate.Proofs.Source.LexLiteral
import TextMate.Proofs.Source.LexTokens
import TextMate.Proofs.Source.Lexer
import TextMate.Proofs.Source.Linking
import TextMate.Proofs.Source.Mention
import TextMate.Proofs.Source.Needs
import TextMate.Proofs.Source.ParseExpr
import TextMate.Proofs.Source.ParseFile
import TextMate.Proofs.Source.Parser
import TextMate.Proofs.Source.RawLiteral
import TextMate.Proofs.Source.Rebuild
import TextMate.Proofs.Source.RuleSource
import TextMate.Proofs.Source.RuleValue
import TextMate.Proofs.Source.SnakeCase
import TextMate.Proofs.Source.Spacing
import TextMate.Proofs.Source.Split
import TextMate.Proofs.Source.TermValue
import TextMate.Proofs.Source.UseLine
import TextMate.Proofs.Source.Writing
import TextMate.Proofs.Source.WrittenFiles
import TextMate.Proofs.Text.ByteOrder
import TextMate.Proofs.Text.Digits
import TextMate.Proofs.Workspace
import TextMate.Rule
import TextMate.Source.Expr
import TextMate.Source.File
import TextMate.Source.Identifier
import TextMate.Source.Literal
import TextMate.Source.OfGrammar
import TextMate.Source.Token
import TextMate.Source.Units
import TextMate.Source.Writer
import TextMate.Text.Blank
import TextMate.Text.CasedTable
import TextMate.Text.Concealed
import TextMate.Text.Quoted
import TextMate.Text.Ranges
import TextMate.Text.Utf8
import TextMate.Text.Word
import TextMate.Text.WordTable
import TextMate.Workspace
