import StatementLang.Main
import StatementLang.Report.Reading
import StatementLang.Source.Printer
import StatementLang.Statement.Grammar
import StatementLang.Proofs.Step
import StatementLang.Proofs.Program
import StatementLang.Proofs.ViablePrefix
import StatementLang.Proofs.Lexeme
import StatementLang.Proofs.Scanning
import StatementLang.Proofs.Lexing
import StatementLang.Proofs.Segmentation
import StatementLang.Proofs.RoundTrip
import StatementLang.Proofs.Foreign
import StatementLang.Proofs.Resumption
import StatementLang.Proofs.Blame
import StatementLang.Proofs.Relabelling
import StatementLang.Proofs.Kinds
import StatementLang.Proofs.Settling
import StatementLang.Proofs.Concatenation
import StatementLang.Proofs.Seam
import StatementLang.Proofs.Extension
import StatementLang.Proofs.Session
import StatementLang.Proofs.Trace
import StatementLang.Proofs.Layout
import StatementLang.Proofs.Json.Grammar
import StatementLang.Proofs.Json.Strings
import StatementLang.Proofs.Json.Numerals
import StatementLang.Proofs.Json.Marks
import StatementLang.Proofs.Json.Skipping
import StatementLang.Proofs.Json.Readers
import StatementLang.Proofs.Json.Slots
import StatementLang.Proofs.Json.Records
import StatementLang.Proofs.Json.Fronts
import StatementLang.Proofs.Json.Truncation
import StatementLang.Proofs.Json.Writing
import StatementLang.Proofs.ReportReading
import StatementLang.Proofs.ReportRoundTrip
import StatementLang.Proofs.Verdict
import StatementLang.Proofs.Json.Unambiguous
import StatementLang.Proofs.ReportTruncation
import StatementLang.Proofs.Options
import StatementLang.Proofs.PrintedReports
import StatementLang.Proofs.Json.Injectivity
import StatementLang.Proofs.Json.Layouts
import StatementLang.Proofs.Documents
import StatementLang.Proofs.Digits
import StatementLang.Proofs.Quoted
import StatementLang.Proofs.Outlines
import StatementLang.Proofs.Listings
import StatementLang.Proofs.Positions
