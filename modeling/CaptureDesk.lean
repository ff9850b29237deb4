import CaptureDesk.Incident
import CaptureDesk.Main
import CaptureDesk.Proofs.Backend.Answers
import CaptureDesk.Proofs.Backend.Wire
import CaptureDesk.Proofs.Board.Invalidation
import CaptureDesk.Proofs.Board.WellFormed
import CaptureDesk.Proofs.Child.Bounds
import CaptureDesk.Proofs.CommandLine.BadSettings
import CaptureDesk.Proofs.CommandLine.Init
import CaptureDesk.Proofs.Decimal.Doubles
import CaptureDesk.Proofs.Decimal.Nearest
import CaptureDesk.Proofs.Decimal.Packed
import CaptureDesk.Proofs.Decimal.Thousandths
import CaptureDesk.Proofs.Feed.Balance
import CaptureDesk.Proofs.Feed.Fold
import CaptureDesk.Proofs.Feed.Gaps
import CaptureDesk.Proofs.Feed.Verdict
import CaptureDesk.Proofs.Files.Written
import CaptureDesk.Proofs.Helper.Answers
import CaptureDesk.Proofs.Json.Decoded
import CaptureDesk.Proofs.Json.RoundTrip
import CaptureDesk.Proofs.Positions.Traffic
import CaptureDesk.Proofs.Production.FailFast
import CaptureDesk.Proofs.Recognition.Outputs
import CaptureDesk.Proofs.Revision.Contention
import CaptureDesk.Proofs.Revision.Resolution
import CaptureDesk.Proofs.Screen.Gate
import CaptureDesk.Proofs.Screen.Ledger
import CaptureDesk.Proofs.Screen.Loading
import CaptureDesk.Proofs.Settings.Decimals
import CaptureDesk.Proofs.Settings.Given
import CaptureDesk.Proofs.Settings.Legible
import CaptureDesk.Proofs.Settings.Rewritten
import CaptureDesk.Proofs.Settings.Saved
import CaptureDesk.Proofs.Settings.Timeouts
import CaptureDesk.Proofs.Settings.Values
import CaptureDesk.Proofs.Steps
import CaptureDesk.Proofs.Text.Decoding
import CaptureDesk.Proofs.Text.Encoding
import CaptureDesk.Proofs.Text.Numerals
import CaptureDesk.Proofs.Text.Surrogates
import CaptureDesk.Proofs.Toml.Decimals
import CaptureDesk.Proofs.Toml.Keyed
import CaptureDesk.Proofs.Toml.Lines
import CaptureDesk.Proofs.Toml.Literals
import CaptureDesk.Proofs.Toml.Overlong
import CaptureDesk.Proofs.Toml.Passed
import CaptureDesk.Proofs.Value.Text
