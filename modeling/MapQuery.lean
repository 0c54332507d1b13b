import MapQuery.Calendar.Civil
import MapQuery.Calendar.Iso
import MapQuery.Calendar.Moment
import MapQuery.Calendar.Query
import MapQuery.Command.Arguments
import MapQuery.Command.Configure
import MapQuery.Command.Misuse
import MapQuery.Command.Output
import MapQuery.Command.Program
import MapQuery.Command.Search
import MapQuery.Files.Path
import MapQuery.Files.Tree
import MapQuery.Json.Basic
import MapQuery.Json.Notation
import MapQuery.Json.Printer
import MapQuery.Json.Reader
import MapQuery.Main
import MapQuery.Map.Bounds
import MapQuery.Map.DataSet
import MapQuery.Map.Document
import MapQuery.Map.Field
import MapQuery.Map.Graph
import MapQuery.Map.Kind
import MapQuery.Map.Plane
import MapQuery.Map.Reference
import MapQuery.Map.Tags
import MapQuery.Number.Binary64
import MapQuery.Number.Read
import MapQuery.Number.Round
import MapQuery.Number.Scientific
import MapQuery.Number.Shortest
import MapQuery.Pattern.Basic
import MapQuery.Pattern.Element
import MapQuery.Pattern.Fault
import MapQuery.Pattern.Letter
import MapQuery.Pattern.Matcher
import MapQuery.Pattern.Parser
import MapQuery.Pattern.Reader
import MapQuery.Pattern.Syntax
import MapQuery.Predicate.Basic
import MapQuery.Predicate.Match
import MapQuery.Predicate.Truth
import MapQuery.Query.Compile
import MapQuery.Query.Cursor
import MapQuery.Query.Fault
import MapQuery.Query.Lexeme
import MapQuery.Query.Range
import MapQuery.Query.Token
import MapQuery.Screen.Emoji
import MapQuery.Screen.Emoji.Table
import MapQuery.Screen.Markup
import MapQuery.Screen.Table
import MapQuery.Settings.Basic
import MapQuery.Settings.File
import MapQuery.Text.Blank
import MapQuery.Text.Case.Fold
import MapQuery.Text.Case.Letters
import MapQuery.Text.Cell
import MapQuery.Text.Clip
import MapQuery.Text.CodeTable
import MapQuery.Text.Compare
import MapQuery.Text.Digit
import MapQuery.Text.Identifier
import MapQuery.Text.Literal
import MapQuery.Text.Name
import MapQuery.Text.Name.Scripts
import MapQuery.Text.Name.Supplement
import MapQuery.Text.Name.Symbols
import MapQuery.Text.Normal.Composition
import MapQuery.Text.Normal.Decomposition
import MapQuery.Text.Normal.Form
import MapQuery.Text.Normal.Mark
import MapQuery.Text.Position
import MapQuery.Text.Printable
import MapQuery.Text.Rough
import MapQuery.Text.Similar
import MapQuery.Text.Utf8
import MapQuery.Text.Word
import MapQuery.Toml.Basic
import MapQuery.Toml.Document
import MapQuery.Toml.Fault
import MapQuery.Toml.Printer
import MapQuery.Toml.Reader
import MapQuery.Proofs.Fallible
import MapQuery.Proofs.Query.Step
import MapQuery.Proofs.Query.Fuel
import MapQuery.Proofs.Query.Listing
import MapQuery.Proofs.Query.Locality
import MapQuery.Proofs.Query.Recursion
import MapQuery.Proofs.Query.Group
import MapQuery.Proofs.Query.Operand
import MapQuery.Proofs.Query.Spelling
import MapQuery.Proofs.Query.Keyed
import MapQuery.Proofs.Map.Reach
import MapQuery.Proofs.Query.Written
import MapQuery.Proofs.Predicate.Area
import MapQuery.Proofs.Predicate.Chain
import MapQuery.Proofs.Predicate.Outcome
import MapQuery.Proofs.Map.Register
import MapQuery.Proofs.Map.Element
import MapQuery.Proofs.Map.Assembly
import MapQuery.Proofs.Map.Referrers
import MapQuery.Proofs.Map.Contents
import MapQuery.Proofs.Predicate.Kin
import MapQuery.Proofs.Predicate.Renaming
import MapQuery.Proofs.Map.Reorder
import MapQuery.Proofs.Command.Found
import MapQuery.Proofs.Command.Reordered
import MapQuery.Proofs.Command.Explained
import MapQuery.Proofs.Query.Origin
import MapQuery.Proofs.Query.Invariants
import MapQuery.Proofs.Query.Exceeding
import MapQuery.Proofs.Predicate.Measurable
import MapQuery.Proofs.Number.Limit
import MapQuery.Proofs.Text.Rough
import MapQuery.Proofs.Screen.Markup
import MapQuery.Proofs.Text.Utf8
import MapQuery.Proofs.Json.Overlong
import MapQuery.Proofs.Map.Unfit
import MapQuery.Proofs.Map.Refused
import MapQuery.Proofs.Query.Reading
import MapQuery.Proofs.Query.Terminal
import MapQuery.Proofs.Query.Stream
import MapQuery.Proofs.Query.Respelling
import MapQuery.Proofs.Query.Escaped
import MapQuery.Proofs.Query.Dangling
import MapQuery.Proofs.Predicate.Retag
import MapQuery.Proofs.Predicate.TagOrder
import MapQuery.Proofs.Predicate.ExactTable
import MapQuery.Proofs.Text.CodeTable
import MapQuery.Proofs.Text.Decomposition
import MapQuery.Proofs.Text.Canonical
import MapQuery.Proofs.Text.Folding
import MapQuery.Proofs.Text.Joining
import MapQuery.Proofs.Text.FoldEdge
import MapQuery.Proofs.Text.Spelling
import MapQuery.Proofs.Predicate.TagSpelling
import MapQuery.Proofs.Map.Additions
import MapQuery.Proofs.Json.Printed
import MapQuery.Proofs.Calendar.Civil
import MapQuery.Proofs.Calendar.Iso
import MapQuery.Proofs.Calendar.Stamp
import MapQuery.Proofs.Number.Nearest
import MapQuery.Proofs.Number.Rounded
import MapQuery.Proofs.Number.Unpacked
import MapQuery.Proofs.Number.Machine
import MapQuery.Proofs.Number.Arithmetic
import MapQuery.Proofs.Map.Segment
import MapQuery.Proofs.Calendar.Epoch
import MapQuery.Proofs.Json.Bounded
import MapQuery.Proofs.Map.Record
import MapQuery.Proofs.Command.Reloaded
import MapQuery.Proofs.Query.OpenRange
import MapQuery.Proofs.Query.TimeSpan
import MapQuery.Proofs.Query.RangeText
import MapQuery.Proofs.Command.Ending
import MapQuery.Proofs.Command.Selected
import MapQuery.Proofs.Toml.Printed
import MapQuery.Proofs.Files.Path
import MapQuery.Proofs.Files.Tree
import MapQuery.Proofs.Settings.Saved
import MapQuery.Proofs.Toml.Overlong
import MapQuery.Proofs.Settings.Refused
import MapQuery.Proofs.Pattern.Outcome
import MapQuery.Proofs.Predicate.Narrower
import MapQuery.Proofs.Pattern.Literal
import MapQuery.Proofs.Pattern.Step
import MapQuery.Proofs.Pattern.Excess
import MapQuery.Proofs.Predicate.LiteralOperand
import MapQuery.Proofs.Predicate.CaseBlind
