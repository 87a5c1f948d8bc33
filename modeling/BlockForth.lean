import BlockForth.Builtin.Basic
import BlockForth.Builtin.Table
import BlockForth.CommandLine.Console
import BlockForth.CommandLine.Line
import BlockForth.CommandLine.LogFilter
import BlockForth.CommandLine.Request
import BlockForth.Dictionary
import BlockForth.Fault
import BlockForth.Limits
import BlockForth.Machine.Basic
import BlockForth.Machine.Definition
import BlockForth.Machine.Handler
import BlockForth.Machine.Perform
import BlockForth.Machine.Run
import BlockForth.Machine.Session
import BlockForth.Main
import BlockForth.Number.Binary64
import BlockForth.Number.Decimal
import BlockForth.Number.Numeral
import BlockForth.Pattern.Atom
import BlockForth.Pattern.Bracket
import BlockForth.Pattern.WellFormed
import BlockForth.Source.Cursor
import BlockForth.Source.Directory
import BlockForth.Source.Location
import BlockForth.Stack
import BlockForth.Text.Bytes
import BlockForth.Text.CaseTable
import BlockForth.Text.Cluster
import BlockForth.Text.ClusterTable
import BlockForth.Text.LetterTable
import BlockForth.Text.Lowercase
import BlockForth.Text.Pieces
import BlockForth.Text.Quoted
import BlockForth.Text.Ranges
import BlockForth.Token.Basic
import BlockForth.Token.Reader
import BlockForth.Value.Arithmetic
import BlockForth.Value.Basic
import BlockForth.Value.Kind
import BlockForth.Value.Order
import BlockForth.Proofs.Dictionary.Entries
import BlockForth.Proofs.Dictionary.History
import BlockForth.Proofs.Machine.AtOnce
import BlockForth.Proofs.Machine.Balance
import BlockForth.Proofs.Machine.Choice
import BlockForth.Proofs.Machine.Definitions
import BlockForth.Proofs.Machine.Dispatch
import BlockForth.Proofs.Machine.Division
import BlockForth.Proofs.Machine.Exit
import BlockForth.Proofs.Machine.Extent
import BlockForth.Proofs.Machine.Failure
import BlockForth.Proofs.Machine.FaultKinds
import BlockForth.Proofs.Machine.FaultPlace
import BlockForth.Proofs.Machine.Growth
import BlockForth.Proofs.Machine.Inlining
import BlockForth.Proofs.Machine.Nesting
import BlockForth.Proofs.Machine.OneCall
import BlockForth.Proofs.Machine.Operands
import BlockForth.Proofs.Machine.Rebuild
import BlockForth.Proofs.Machine.Relocation
import BlockForth.Proofs.Machine.Repetition
import BlockForth.Proofs.Machine.Simulation
import BlockForth.Proofs.Machine.Spelling
import BlockForth.Proofs.Machine.StackBelow
import BlockForth.Proofs.Machine.Steps
import BlockForth.Proofs.Machine.StoredWords
import BlockForth.Proofs.Machine.Suppression
import BlockForth.Proofs.Machine.Termination
import BlockForth.Proofs.Machine.TextWords
import BlockForth.Proofs.Machine.Underflow
import BlockForth.Proofs.Machine.Units
import BlockForth.Proofs.Machine.WordEffect
import BlockForth.Proofs.Number.Literal
import BlockForth.Proofs.Number.Numeral
import BlockForth.Proofs.Text.Deletion
import BlockForth.Proofs.Text.Listing
import BlockForth.Proofs.Text.Lowercase
import BlockForth.Proofs.Text.Pieces
import BlockForth.Proofs.Text.ScalarOrder
import BlockForth.Proofs.Token.Braces
import BlockForth.Proofs.Token.Lines
import BlockForth.Proofs.Token.ListedText
import BlockForth.Proofs.Token.Places
import BlockForth.Proofs.Token.Reading
import BlockForth.Proofs.Token.RoundTrip
import BlockForth.Proofs.Token.StringEnds
import BlockForth.Proofs.Token.Strings
