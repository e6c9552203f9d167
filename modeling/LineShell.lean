import LineShell.Arguments
import LineShell.Command
import LineShell.Command.Parse
import LineShell.CommandLine
import LineShell.Connective
import LineShell.Console
import LineShell.Evaluate
import LineShell.Execution
import LineShell.Exit
import LineShell.FileTree
import LineShell.FileTree.Launch
import LineShell.Lookup
import LineShell.Main
import LineShell.Proofs.Chain
import LineShell.Proofs.Coherence
import LineShell.Reply
import LineShell.Scan.Error
import LineShell.Scan.Line
import LineShell.Scan.Scanner
import LineShell.Scan.State
import LineShell.Session
import LineShell.Shell
import LineShell.Status
import LineShell.Text.Backspace
import LineShell.Text.Conjunct
import LineShell.Text.Extending
import LineShell.Text.Fields
import LineShell.Text.Grapheme
import LineShell.Text.Hangul
import LineShell.Text.Hidden
import LineShell.Text.Lines
import LineShell.Text.Numeral
import LineShell.Text.Pictograph
import LineShell.Text.Quoted
import LineShell.Text.Spacing
import LineShell.Text.Span
import LineShell.Text.Trim
import LineShell.Text.Unassigned
import LineShell.Text.Whitespace
import LineShell.Token
import LineShell.Proofs.Grouping
import LineShell.Proofs.Recovery
import LineShell.Proofs.RoundTrip
import LineShell.Proofs.ShortCircuit
import LineShell.Proofs.LineStatus
import LineShell.Proofs.ReadingOrder
import LineShell.Proofs.ExecutedPrefix
import LineShell.Proofs.ConsoleTurns
import LineShell.Proofs.Isolation
import LineShell.Proofs.LineGrammar
import LineShell.Proofs.LexicalGrammar
import LineShell.Proofs.ScanMoves
import LineShell.Proofs.SessionHistory
import LineShell.Proofs.Continuation
import LineShell.Proofs.TokenShape
import LineShell.Proofs.CallRuns
import LineShell.Proofs.Comments
import LineShell.Proofs.Conservation
import LineShell.Proofs.ExitCode
import LineShell.Proofs.Deeds
import LineShell.Proofs.Diagnostics
import LineShell.Proofs.Interrupts
import LineShell.Proofs.Numerals
import LineShell.Proofs.ExitArguments
import LineShell.Proofs.PathSearch
import LineShell.Proofs.Regrouping
import LineShell.Proofs.UniqueReading
import LineShell.Proofs.Lookahead
import LineShell.Proofs.Requests
import LineShell.Proofs.Runs
import LineShell.Proofs.ScanBuffer
