import TextCursor.Session
import TextCursor.Proofs.Movement
import TextCursor.Proofs.Runs
import TextCursor.Proofs.Nesting
import TextCursor.Proofs.Backtracking
import TextCursor.Proofs.Resolution
import TextCursor.Proofs.Consumption
import TextCursor.Proofs.Lexing
import TextCursor.Proofs.Characters
import TextCursor.Proofs.WholeCharacters
import TextCursor.Proofs.OrderedSpans
import TextCursor.Proofs.Bounds
import TextCursor.Proofs.Failure
import TextCursor.Proofs.Strictness
import TextCursor.Proofs.Arithmetic
import TextCursor.Proofs.Ideal
import TextCursor.Proofs.Saturation
import TextCursor.Proofs.SaturatedRuns
import TextCursor.Proofs.ErrorTruth
import TextCursor.Proofs.Reports
import TextCursor.Proofs.MarkLog
import TextCursor.Proofs.ExactLog
import TextCursor.Proofs.Normalization
import TextCursor.Proofs.Loading
import TextCursor.Proofs.Configuration
import TextCursor.Proofs.LongestRun
import TextCursor.Proofs.Slicing
import TextCursor.Proofs.Lexemes
import TextCursor.Proofs.ReportedOffsets
import TextCursor.Proofs.Readability
import TextCursor.Proofs.Draining
import TextCursor.Proofs.Fusion
import TextCursor.Proofs.Remainder
import TextCursor.Proofs.Joins
