import TruthTables.Arguments.Help
import TruthTables.Arguments.Request
import TruthTables.Arguments.Switch
import TruthTables.Arguments.Word
import TruthTables.Assignment
import TruthTables.CommandLine
import TruthTables.Connective
import TruthTables.Csv.Printer
import TruthTables.Csv.Reader
import TruthTables.Cube
import TruthTables.Draft.Basic
import TruthTables.Draft.Table
import TruthTables.Files.FileSystem
import TruthTables.Files.FormulaFile
import TruthTables.Files.Path
import TruthTables.Formula.Automaton
import TruthTables.Formula.Basic
import TruthTables.Formula.Evaluation
import TruthTables.Formula.Grammar
import TruthTables.Formula.Input
import TruthTables.Formula.ParseError
import TruthTables.Formula.Parser
import TruthTables.Formula.Track
import TruthTables.Journal.Basic
import TruthTables.Journal.Note
import TruthTables.Json.Decimal
import TruthTables.Json.Escaped
import TruthTables.Json.Printer
import TruthTables.Json.Reader
import TruthTables.Json.Token
import TruthTables.Json.Value
import TruthTables.Main
import TruthTables.Proofs.Answers
import TruthTables.Proofs.BareReturns
import TruthTables.Proofs.Blanks
import TruthTables.Proofs.Boxes
import TruthTables.Proofs.Colours
import TruthTables.Proofs.Columns
import TruthTables.Proofs.Completeness
import TruthTables.Proofs.Counting
import TruthTables.Proofs.Deciding
import TruthTables.Proofs.Decoding
import TruthTables.Proofs.Documents
import TruthTables.Proofs.Enumeration
import TruthTables.Proofs.FirstFault
import TruthTables.Proofs.Gathering
import TruthTables.Proofs.InfixYield
import TruthTables.Proofs.Language
import TruthTables.Proofs.MixedConnectives
import TruthTables.Proofs.Reading.Automaton
import TruthTables.Proofs.Reading.Grammar
import TruthTables.Proofs.Reading.Levels
import TruthTables.Proofs.Reading.Parser
import TruthTables.Proofs.Reading.Track
import TruthTables.Proofs.Records
import TruthTables.Proofs.Reentry
import TruthTables.Proofs.Renaming
import TruthTables.Proofs.Requests
import TruthTables.Proofs.RoundTrip
import TruthTables.Proofs.Runs
import TruthTables.Proofs.Screen
import TruthTables.Proofs.Splitting
import TruthTables.Proofs.StepColumns
import TruthTables.Proofs.Substitution
import TruthTables.Proofs.Tabulation
import TruthTables.Proofs.Thresholds
import TruthTables.Proofs.Unbound
import TruthTables.Proofs.UniqueSplitting
import TruthTables.Proofs.Values
import TruthTables.Proofs.Verdicts
import TruthTables.Proofs.Wording
import TruthTables.Session
import TruthTables.Table.Basic
import TruthTables.Table.Box
import TruthTables.Table.Build
import TruthTables.Table.Format
import TruthTables.Table.Sheet
import TruthTables.Text.Alphanumeric
import TruthTables.Text.Blank
import TruthTables.Text.CodeRange
import TruthTables.Text.Hex
import TruthTables.Text.LineEnd
import TruthTables.Text.Numeral
import TruthTables.Text.Printable
import TruthTables.Text.Quoted
import TruthTables.Text.Utf8
import TruthTables.Token.Basic
import TruthTables.Token.Lexer
