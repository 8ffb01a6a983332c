import LosslessScanner.Shell.FileTree
import LosslessScanner.Main
import LosslessScanner.Proofs.Reading
import LosslessScanner.Proofs.LosslessFile
import LosslessScanner.Proofs.Race.Agreement
import LosslessScanner.Proofs.Lines
import LosslessScanner.Proofs.StrayCharacters
import LosslessScanner.Proofs.LiteralWarnings
import LosslessScanner.Proofs.History
import LosslessScanner.Proofs.Layout
import LosslessScanner.Proofs.Emission
import LosslessScanner.Proofs.Outcome
import LosslessScanner.Proofs.FileCommands
import LosslessScanner.Proofs.Conversation
import LosslessScanner.Proofs.Punctuation
import LosslessScanner.Proofs.Escapes
import LosslessScanner.Proofs.Dump.TextForm
import LosslessScanner.Proofs.Json
import LosslessScanner.Proofs.Dump.JsonForm
import LosslessScanner.Proofs.Number.Grammar
import LosslessScanner.Proofs.Number.Interval
import LosslessScanner.Proofs.IntegerConversion
import LosslessScanner.Proofs.Number.Nearest
import LosslessScanner.Proofs.FloatConversion
import LosslessScanner.Proofs.Number.Shortest
import LosslessScanner.Proofs.Number.Written
import LosslessScanner.Proofs.RoundTrip
import LosslessScanner.Proofs.Number.Notation
import LosslessScanner.Proofs.Rescan
import LosslessScanner.Proofs.Interruption
import LosslessScanner.Proofs.Dump.Echo
import LosslessScanner.Proofs.Locations
import LosslessScanner.Proofs.Carets
import LosslessScanner.Proofs.Coloring
import LosslessScanner.Proofs.Progress
