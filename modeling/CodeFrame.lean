import CodeFrame.Text
import CodeFrame.Text.Decimal
import CodeFrame.Halving
import CodeFrame.Text.Visible
import CodeFrame.Text.Quoted
import CodeFrame.Mark
import CodeFrame.Fault
import CodeFrame.Span
import CodeFrame.Diagnostic
import CodeFrame.Limits
import CodeFrame.Run
import CodeFrame.Palette
import CodeFrame.Position
import CodeFrame.LineTable
import CodeFrame.MarkedLine
import CodeFrame.MarkedLine.Shorten
import CodeFrame.Margin
import CodeFrame.Excerpt
import CodeFrame.Script
import CodeFrame.Report
import CodeFrame.Catalog
import CodeFrame.Catalog.Desk
import CodeFrame.Value
import CodeFrame.Value.Reader
import CodeFrame.Session
import CodeFrame.Value.Words
import CodeFrame.Proofs.Halving
import CodeFrame.Proofs.Lines
import CodeFrame.Proofs.Frame
import CodeFrame.Proofs.Cuts
import CodeFrame.Proofs.Splitting
import CodeFrame.Proofs.Positions
import CodeFrame.Proofs.Headings
import CodeFrame.Proofs.Parts
import CodeFrame.Proofs.Layout
import CodeFrame.Proofs.Following
import CodeFrame.Proofs.Catalog
import CodeFrame.Proofs.Ledger
import CodeFrame.Proofs.Offsets
import CodeFrame.Proofs.Progress
import CodeFrame.Proofs.Sessions
import CodeFrame.Proofs.Controls
import CodeFrame.Proofs.Markers
import CodeFrame.Proofs.Colour
import CodeFrame.Proofs.Surroundings
import CodeFrame.Proofs.Returns
import CodeFrame.Proofs.Rows
import CodeFrame.Proofs.Margins
import CodeFrame.Proofs.Alignment
import CodeFrame.Proofs.Shortened
import CodeFrame.Proofs.Widths
import CodeFrame.Proofs.Editions
import CodeFrame.Proofs.Words
import CodeFrame.Proofs.Reading
import CodeFrame.Proofs.Carried
