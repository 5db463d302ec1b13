import Tabula.Analysis.Column
import Tabula.Analysis.Table
import Tabula.Calendar.Date
import Tabula.Calendar.DateTime
import Tabula.Calendar.Iso
import Tabula.Criteria
import Tabula.DataSource
import Tabula.DataSource.Analysis
import Tabula.DataSource.Change
import Tabula.DataSource.Search
import Tabula.DataType
import Tabula.DataType.Coerce
import Tabula.DataType.Read
import Tabula.Decimal.Double
import Tabula.Decimal.Fixed
import Tabula.Decimal.Numeral
import Tabula.Decimal.Shortest
import Tabula.Digest.Sha1
import Tabula.Document
import Tabula.Fault
import Tabula.Grid
import Tabula.Item
import Tabula.Language.Clause
import Tabula.Language.Lexeme
import Tabula.Language.Reader
import Tabula.Language.Token
import Tabula.Operator
import Tabula.OrderedMap
import Tabula.Pattern.Cursor
import Tabula.Pattern.Escape
import Tabula.Pattern.Flags
import Tabula.Pattern.Flaw
import Tabula.Pattern.Group
import Tabula.Pattern.Letter
import Tabula.Pattern.Match
import Tabula.Pattern.Node
import Tabula.Pattern.Read
import Tabula.Query.Compile
import Tabula.Query.Plan
import Tabula.Query.Reading
import Tabula.Query.Stage
import Tabula.Refusal
import Tabula.Settings
import Tabula.Sorting
import Tabula.Statistics
import Tabula.Text.Alphanumeric
import Tabula.Text.Blank
import Tabula.Text.Case
import Tabula.Text.CaseIgnorable
import Tabula.Text.Cased
import Tabula.Text.Digit
import Tabula.Text.NamePart
import Tabula.Text.Numeric
import Tabula.Text.Part
import Tabula.Text.Quoted
import Tabula.Text.Ranges
import Tabula.Text.Unprintable
import Tabula.Text.Word
import Tabula.Value
import Tabula.Value.Compare
import Tabula.Workbook
import Tabula.Proofs.Coercion
import Tabula.Proofs.Results
import Tabula.Proofs.Arrangement
import Tabula.Proofs.DoubleBits
import Tabula.Proofs.GreatestKey
import Tabula.Proofs.KeyLookup
import Tabula.Proofs.KeyedChange
import Tabula.Proofs.NextKey
import Tabula.Proofs.Paging
import Tabula.Proofs.Acceptance
import Tabula.Proofs.Execution
import Tabula.Proofs.KeyedRun
import Tabula.Proofs.Trouble
import Tabula.Proofs.KeyMap
import Tabula.Proofs.Filing
import Tabula.Proofs.Nearest
import Tabula.Proofs.ShortestDecimal
import Tabula.Proofs.DigitText
import Tabula.Proofs.NumeralText
import Tabula.Proofs.CalendarText
import Tabula.Proofs.Bounds
import Tabula.Proofs.LiteralText
import Tabula.Proofs.HeldLiterals
import Tabula.Proofs.FittingRows
import Tabula.Proofs.Stocking
import Tabula.Proofs.WholeText
import Tabula.Proofs.RowLocation
import Tabula.Proofs.Grammar
import Tabula.Proofs.Derivation
import Tabula.Proofs.Parsing
import Tabula.Proofs.Spelling
import Tabula.Proofs.Writing
import Tabula.Proofs.Scrolling
import Tabula.Proofs.RowFaults
import Tabula.Proofs.PlanLife
import Tabula.Proofs.ConformingRows
import Tabula.Proofs.FailedChanges
import Tabula.Proofs.NumberLexemes
import Tabula.Proofs.TextFaults
import Tabula.Proofs.Reuse
import Tabula.Proofs.LeftOut
import Tabula.Proofs.SmallLetters
import Tabula.Proofs.CaseBlind
import Tabula.Proofs.Searching
import Tabula.Proofs.Selection
import Tabula.Proofs.ColumnSort
import Tabula.Proofs.SearchUnion
import Tabula.Proofs.Overlay
import Tabula.Proofs.OperatorLaws
import Tabula.Proofs.ColumnScans
import Tabula.Proofs.InferredType
import Tabula.Proofs.DetailNames
import Tabula.Proofs.Frequencies
import Tabula.Proofs.TableScans
import Tabula.Proofs.Median
import Tabula.Proofs.DescribedColumns
import Tabula.Proofs.Description
import Tabula.Proofs.LowerMedian
import Tabula.Proofs.ItemChanges
import Tabula.Proofs.TextAndBack
import Tabula.Proofs.ShownRows
import Tabula.Proofs.Pieces
import Tabula.Proofs.QuotedText
import Tabula.Proofs.MomentLiterals
import Tabula.Proofs.ValueLiterals
import Tabula.Proofs.DigestText
import Tabula.Proofs.UniqueHash
import Tabula.Proofs.ColumnFeatures
import Tabula.Proofs.LexicalRules
import Tabula.Proofs.TextLayout
import Tabula.Proofs.LineCount
import Tabula.Proofs.Sheets
