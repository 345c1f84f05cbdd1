import StatementTagging.Analysis
import StatementTagging.Command.Diagnose
import StatementTagging.Command.Pipeline
import StatementTagging.Command.Tag
import StatementTagging.Editor
import StatementTagging.Main
import StatementTagging.Rule.Collection
import StatementTagging.Rule.Document
import StatementTagging.Settings
import StatementTagging.Transactions
import StatementTagging.Proofs.Pattern.Escape
import StatementTagging.Proofs.Pattern.Reading
import StatementTagging.Proofs.Pattern.Matching
import StatementTagging.Proofs.Text.Blank
import StatementTagging.Proofs.TextTest
import StatementTagging.Proofs.Shape
import StatementTagging.Proofs.Recognition
import StatementTagging.Proofs.RoundTrip
import StatementTagging.Proofs.Pattern.Capturing
import StatementTagging.Proofs.Extraction
import StatementTagging.Proofs.Rule.Collection
import StatementTagging.Proofs.Rule.Ledger
import StatementTagging.Proofs.Analysis
import StatementTagging.Proofs.Grouping
import StatementTagging.Proofs.Rule.Loading
import StatementTagging.Proofs.Rule.Saving
import StatementTagging.Proofs.Rule.Usable
import StatementTagging.Proofs.ExtractionRoundTrip
import StatementTagging.Proofs.Rule.Evaluation
import StatementTagging.Proofs.Number.Integer
import StatementTagging.Proofs.Table.Frame
import StatementTagging.Proofs.Rule.Alike
import StatementTagging.Proofs.Tagging
import StatementTagging.Proofs.Agreement
import StatementTagging.Proofs.Report.Ranking
import StatementTagging.Proofs.Text.Pieces
import StatementTagging.Proofs.Cells
import StatementTagging.Proofs.Report.Tags
import StatementTagging.Proofs.Report.Coverage
import StatementTagging.Proofs.Report.Extraction
import StatementTagging.Proofs.Report.Diagnostics
import StatementTagging.Proofs.Resaving
import StatementTagging.Proofs.AttributeForm
import StatementTagging.Proofs.Comprehension
import StatementTagging.Proofs.Rule.Neighbours
import StatementTagging.Proofs.Rule.Importing
import StatementTagging.Proofs.Retagging
import StatementTagging.Proofs.Flattening
import StatementTagging.Proofs.Dispatch
import StatementTagging.Proofs.Pattern.Scanning
import StatementTagging.Proofs.Number.Leading
import StatementTagging.Proofs.Number.Front
import StatementTagging.Proofs.Field
import StatementTagging.Proofs.Table.Order
import StatementTagging.Proofs.Report.Order
import StatementTagging.Proofs.Report.Storing
import StatementTagging.Proofs.Description
import StatementTagging.Proofs.Verification
import StatementTagging.Proofs.Report.Catalog
import StatementTagging.Proofs.Alternatives
import StatementTagging.Proofs.Text.Classes
import StatementTagging.Proofs.ReadableName
import StatementTagging.Proofs.Text.Upper
import StatementTagging.Proofs.Text.Words
import StatementTagging.Proofs.Report.Description
