import FormatConformance.Log.Validation
import FormatConformance.Main
import FormatConformance.Scripted.Worker
import FormatConformance.Proofs.Computation
import FormatConformance.Proofs.Exploration
import FormatConformance.Proofs.Run.Checks
import FormatConformance.Proofs.Run.Accounting
import FormatConformance.Proofs.Run.GreenReport
import FormatConformance.Proofs.Run.FirstFault
import FormatConformance.Proofs.Run.Logging
import FormatConformance.Proofs.BridgeAgreement
import FormatConformance.Proofs.Subject.EchoBridge
import FormatConformance.Proofs.Generation
import FormatConformance.Proofs.Surveys
import FormatConformance.Proofs.Pattern.Terms
import FormatConformance.Proofs.Diff
import FormatConformance.Proofs.Adjudication
import FormatConformance.Proofs.TokenFolding
import FormatConformance.Proofs.Reference.Pairing
import FormatConformance.Proofs.Numeral
import FormatConformance.Proofs.Json.Lexing
import FormatConformance.Proofs.Json.Reading
import FormatConformance.Proofs.Json.Printable
import FormatConformance.Proofs.Reference.Requests
import FormatConformance.Proofs.Seeds
import FormatConformance.Proofs.Text.Quoting
import FormatConformance.Proofs.TypedText
import FormatConformance.Proofs.Replay
import FormatConformance.Proofs.Json.Page
import FormatConformance.Proofs.Json.Records
import FormatConformance.Proofs.Reference.Responses
import FormatConformance.Proofs.Reports
import FormatConformance.Proofs.Patching
import FormatConformance.Proofs.TokenPlaces
import FormatConformance.Proofs.TypedNumbers
import FormatConformance.Proofs.Calendar
import FormatConformance.Proofs.Timestamps
import FormatConformance.Proofs.Ieee.Widening
import FormatConformance.Proofs.Subject.Refusals
import FormatConformance.Proofs.Scripted.Files
import FormatConformance.Proofs.Parting
import FormatConformance.Proofs.Outcomes
import FormatConformance.Proofs.Scenarios
import FormatConformance.Proofs.DayCount
import FormatConformance.Proofs.Log.Emission
import FormatConformance.Proofs.Log.Checking
import FormatConformance.Proofs.Log.Normalising
import FormatConformance.Proofs.Fingerprints
import FormatConformance.Proofs.Tables
