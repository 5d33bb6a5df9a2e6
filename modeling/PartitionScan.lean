import PartitionScan.Buffer
import PartitionScan.CharPair
import PartitionScan.Command.Options
import PartitionScan.Command.Output
import PartitionScan.Command.Report
import PartitionScan.Command.Run
import PartitionScan.Document
import PartitionScan.Fault
import PartitionScan.Files
import PartitionScan.Language
import PartitionScan.Language.Builtin
import PartitionScan.Language.ByteLoop
import PartitionScan.Language.LineSpans
import PartitionScan.Language.Partitioning
import PartitionScan.Line
import PartitionScan.Loop
import PartitionScan.Main
import PartitionScan.Offset
import PartitionScan.Partition
import PartitionScan.PartitionMap
import PartitionScan.Path
import PartitionScan.Pattern
import PartitionScan.Pattern.Anchor
import PartitionScan.Pattern.Bounds
import PartitionScan.Pattern.ByteForm
import PartitionScan.Pattern.ClassReader
import PartitionScan.Pattern.Escape
import PartitionScan.Pattern.Expr
import PartitionScan.Pattern.Flags
import PartitionScan.Pattern.Footprint
import PartitionScan.Pattern.Layout
import PartitionScan.Pattern.Opening
import PartitionScan.Pattern.Program
import PartitionScan.Pattern.Property
import PartitionScan.Pattern.Property.Age
import PartitionScan.Pattern.Property.AgeTable
import PartitionScan.Pattern.Property.Binary
import PartitionScan.Pattern.Property.BinaryTable
import PartitionScan.Pattern.Property.Category
import PartitionScan.Pattern.Property.CategoryTable
import PartitionScan.Pattern.Property.Script
import PartitionScan.Pattern.Property.ScriptTable
import PartitionScan.Pattern.Property.Segment
import PartitionScan.Pattern.Reader
import PartitionScan.Pattern.Search
import PartitionScan.Proofs.Asking
import PartitionScan.Proofs.BlankLines
import PartitionScan.Proofs.Blocks
import PartitionScan.Proofs.ByteSpans
import PartitionScan.Proofs.CheckedQueries
import PartitionScan.Proofs.CheckedScans
import PartitionScan.Proofs.Closing
import PartitionScan.Proofs.CommandLines
import PartitionScan.Proofs.Counting
import PartitionScan.Proofs.DeclaredOrder
import PartitionScan.Proofs.DeclaredRules
import PartitionScan.Proofs.Decomposition
import PartitionScan.Proofs.Delimiters
import PartitionScan.Proofs.Directions
import PartitionScan.Proofs.DisplayColumns
import PartitionScan.Proofs.Edits
import PartitionScan.Proofs.Escapes
import PartitionScan.Proofs.Gating
import PartitionScan.Proofs.History
import PartitionScan.Proofs.KeptSpans
import PartitionScan.Proofs.LineBreaks
import PartitionScan.Proofs.LineIndex
import PartitionScan.Proofs.LineKinds
import PartitionScan.Proofs.LineSpans
import PartitionScan.Proofs.Locations
import PartitionScan.Proofs.Lookups
import PartitionScan.Proofs.Matching
import PartitionScan.Proofs.NearestStops
import PartitionScan.Proofs.OpenConstructs
import PartitionScan.Proofs.Pairing
import PartitionScan.Proofs.Partitioning
import PartitionScan.Proofs.Peers
import PartitionScan.Proofs.PlainScans
import PartitionScan.Proofs.Progress
import PartitionScan.Proofs.RRules
import PartitionScan.Proofs.RText
import PartitionScan.Proofs.Registrations
import PartitionScan.Proofs.RuleOrder
import PartitionScan.Proofs.RuleStates
import PartitionScan.Proofs.Runs
import PartitionScan.Proofs.Scanning
import PartitionScan.Proofs.Search
import PartitionScan.Proofs.Splitting
import PartitionScan.Proofs.StableSorts
import PartitionScan.Proofs.Tiling
import PartitionScan.Proofs.Worlds
import PartitionScan.Region
import PartitionScan.Registry
import PartitionScan.Rule
import PartitionScan.Scan.Condition
import PartitionScan.Scan.Context
import PartitionScan.Scan.Linear
import PartitionScan.Scan.Peer
import PartitionScan.Scan.Query
import PartitionScan.Scan.Regions
import PartitionScan.Scan.Scanner
import PartitionScan.Settings
import PartitionScan.Text.Alphabetic
import PartitionScan.Text.Bytes
import PartitionScan.Text.CaseIgnorable
import PartitionScan.Text.CaseRun
import PartitionScan.Text.Cased
import PartitionScan.Text.Extender
import PartitionScan.Text.Fold
import PartitionScan.Text.FoldRuns
import PartitionScan.Text.Hex
import PartitionScan.Text.Letters
import PartitionScan.Text.LowerRuns
import PartitionScan.Text.Lowercase
import PartitionScan.Text.Numeric
import PartitionScan.Text.Quoted
import PartitionScan.Text.Ranges
import PartitionScan.Text.Unprintable
import PartitionScan.Text.Wide
import PartitionScan.Text.Width
import PartitionScan.Text.ZeroWidth
import PartitionScan.Toml.DateTable
import PartitionScan.Toml.Lexeme
import PartitionScan.Toml.Number
import PartitionScan.Toml.Reader
import PartitionScan.Toml.Table
import PartitionScan.Toml.Value
