import TenantSchema.Applier
import TenantSchema.Command
import TenantSchema.Config
import TenantSchema.Decimal.Literal
import TenantSchema.Decimal.Shortest
import TenantSchema.EngineCache
import TenantSchema.Environment
import TenantSchema.FileTree
import TenantSchema.LogLevel
import TenantSchema.Main
import TenantSchema.Note
import TenantSchema.Options
import TenantSchema.Path
import TenantSchema.Plan
import TenantSchema.Proofs.Applier.Accounting
import TenantSchema.Proofs.Applier.Attempts
import TenantSchema.Proofs.Applier.Course
import TenantSchema.Proofs.Applier.Coverage
import TenantSchema.Proofs.Applier.CycleVerdict
import TenantSchema.Proofs.Applier.DependencySafety
import TenantSchema.Proofs.Applier.DocumentOrder
import TenantSchema.Proofs.Applier.Hoisting
import TenantSchema.Proofs.Applier.Interruption
import TenantSchema.Proofs.Applier.NamelessDefinitions
import TenantSchema.Proofs.Applier.Obstacles
import TenantSchema.Proofs.Applier.PassedBlocks
import TenantSchema.Proofs.Applier.PlannedAttempts
import TenantSchema.Proofs.Applier.ReferenceOrder
import TenantSchema.Proofs.Applier.Rehearsal
import TenantSchema.Proofs.Applier.ResolverCalls
import TenantSchema.Proofs.Applier.RunCases
import TenantSchema.Proofs.Applier.SkippedBlocks
import TenantSchema.Proofs.Applier.TableOrder
import TenantSchema.Proofs.Command.Agreement
import TenantSchema.Proofs.Config.Fields
import TenantSchema.Proofs.Config.NullValues
import TenantSchema.Proofs.Config.Overrides
import TenantSchema.Proofs.Config.Previews
import TenantSchema.Proofs.Engine.Origins
import TenantSchema.Proofs.Engine.Process
import TenantSchema.Proofs.Provision.BlockShape
import TenantSchema.Proofs.Provision.Conversation
import TenantSchema.Proofs.Provision.DatabaseName
import TenantSchema.Proofs.Provision.FirstFailure
import TenantSchema.Proofs.Provision.Fulfilment
import TenantSchema.Proofs.Provision.NameIndependence
import TenantSchema.Proofs.Provision.Preparation
import TenantSchema.Proofs.Provision.Protocol
import TenantSchema.Proofs.Provision.RunCases
import TenantSchema.Proofs.Provision.Success
import TenantSchema.Proofs.Resolution.Creation
import TenantSchema.Proofs.Resolution.Exploration
import TenantSchema.Proofs.Resolution.MissingClosure
import TenantSchema.Proofs.Resolution.ReportedCircle
import TenantSchema.Proofs.Resolution.Resumption
import TenantSchema.Proofs.Resolution.SingleWalks
import TenantSchema.Proofs.Script.BlockText
import TenantSchema.Proofs.Script.ClosedPassages
import TenantSchema.Proofs.Script.Comments
import TenantSchema.Proofs.Script.Concatenation
import TenantSchema.Proofs.Script.Conservation
import TenantSchema.Proofs.Script.DatabaseStatement
import TenantSchema.Proofs.Script.DiscardedLines
import TenantSchema.Proofs.Script.Division
import TenantSchema.Proofs.Script.ErrorLines
import TenantSchema.Proofs.Script.InsertLines
import TenantSchema.Proofs.Script.KeywordLines
import TenantSchema.Proofs.Script.LetterCase
import TenantSchema.Proofs.Script.Likeness
import TenantSchema.Proofs.Script.LineClasses
import TenantSchema.Proofs.Script.LoadedScript
import TenantSchema.Proofs.Script.Passages
import TenantSchema.Proofs.Script.Quoting
import TenantSchema.Proofs.Script.ReaderAgreement
import TenantSchema.Proofs.Script.Registers
import TenantSchema.Proofs.Script.Spacing
import TenantSchema.Proofs.Script.Terminators
import TenantSchema.Proofs.Script.TwoNames
import TenantSchema.Proofs.Script.WireFormat
import TenantSchema.Proofs.Table.Circle
import TenantSchema.Proofs.Table.CreationOrder
import TenantSchema.Proofs.Table.Derivation
import TenantSchema.Proofs.Table.FirstDefinition
import TenantSchema.Proofs.Table.OwnName
import TenantSchema.Proofs.Table.Performance
import TenantSchema.Proofs.Table.References
import TenantSchema.Proofs.Text.Capitals
import TenantSchema.Proofs.Text.Encoding
import TenantSchema.Proofs.Text.JoinedLines
import TenantSchema.Proofs.Text.Keywords
import TenantSchema.Proofs.Text.LetterCase
import TenantSchema.Proofs.Text.LineEnds
import TenantSchema.Proofs.Text.NewlineTranslation
import TenantSchema.Proofs.Text.Occurrences
import TenantSchema.Proofs.Text.Patterns
import TenantSchema.Proofs.Text.Replacement
import TenantSchema.Proofs.Text.Trimming
import TenantSchema.Proofs.Text.Words
import TenantSchema.Provision
import TenantSchema.Report
import TenantSchema.Script.Blocks
import TenantSchema.Script.Line
import TenantSchema.Script.Scan
import TenantSchema.Server
import TenantSchema.ServerUrl
import TenantSchema.Settings
import TenantSchema.Statement
import TenantSchema.Table.Ledger
import TenantSchema.Table.Name
import TenantSchema.Table.Resolution
import TenantSchema.Template.Load
import TenantSchema.Template.Packaged
import TenantSchema.Text.Base64
import TenantSchema.Text.Basic
import TenantSchema.Text.Blank
import TenantSchema.Text.Cased
import TenantSchema.Text.CodePoint
import TenantSchema.Text.DecimalDigit
import TenantSchema.Text.Feed
import TenantSchema.Text.Hex
import TenantSchema.Text.Integer
import TenantSchema.Text.Keyword
import TenantSchema.Text.Lines
import TenantSchema.Text.Printable
import TenantSchema.Text.Quoted
import TenantSchema.Text.Range
import TenantSchema.Text.SmallLetter
import TenantSchema.Text.Utf8
import TenantSchema.Text.Word
import TenantSchema.Yaml.Block
import TenantSchema.Yaml.Calendar
import TenantSchema.Yaml.Cursor
import TenantSchema.Yaml.Directive
import TenantSchema.Yaml.Document
import TenantSchema.Yaml.Fault
import TenantSchema.Yaml.Node
import TenantSchema.Yaml.Notation
import TenantSchema.Yaml.Plain
import TenantSchema.Yaml.Quoted
import TenantSchema.Yaml.Scalar
import TenantSchema.Yaml.SetOrder
import TenantSchema.Yaml.Source
import TenantSchema.Yaml.Tag
import TenantSchema.Yaml.Token
import TenantSchema.Yaml.TokenStream
import TenantSchema.Yaml.Value
