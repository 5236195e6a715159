import SourceScan.Config.Load
import SourceScan.Log.Session
import SourceScan.Proofs.Codepoint.Class
import SourceScan.Proofs.Text.Bytes
import SourceScan.Proofs.Text.Place
import SourceScan.Proofs.Number.Decimal
import SourceScan.Proofs.Token.Lexeme
import SourceScan.Proofs.Lex.Layout
import SourceScan.Proofs.Lex.Defect
import SourceScan.Proofs.Lex.Passage
import SourceScan.Proofs.Lex.Result
import SourceScan.Proofs.Lex.Failure
import SourceScan.Proofs.Lex.Tiling
import SourceScan.Proofs.Lex.Places
import SourceScan.Proofs.Lex.Order
import SourceScan.Proofs.Lex.Wording
import SourceScan.Proofs.Lex.Rendering
import SourceScan.Proofs.Lex.Origin
import SourceScan.Proofs.Source.Scanning
import SourceScan.Proofs.Lex.Handover
import SourceScan.Proofs.Log.Transcript
import SourceScan.Proofs.Config.Loading
import SourceScan.Proofs.Config.RoundTrip
import SourceScan.Proofs.Lex.Truncation
import SourceScan.Proofs.Text.Lookahead
import SourceScan.Proofs.Log.Filter
import SourceScan.Proofs.Log.Line
import SourceScan.Proofs.Token.Dump
import SourceScan.Proofs.Config.Truncation
