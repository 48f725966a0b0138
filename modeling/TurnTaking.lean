import TurnTaking.Agent.Event
import TurnTaking.Agent.EventRecord
import TurnTaking.Agent.Gate
import TurnTaking.Agent.Session
import TurnTaking.CommandLine.Arguments
import TurnTaking.CommandLine.Run
import TurnTaking.Filter.Config
import TurnTaking.Filter.Decision
import TurnTaking.Filter.Engine
import TurnTaking.Filter.Policy
import TurnTaking.Filter.Transcript
import TurnTaking.Json.Decode
import TurnTaking.Json.Fault
import TurnTaking.Json.Outline
import TurnTaking.Json.Value
import TurnTaking.Json.Write
import TurnTaking.Lexicon.IgnoreList
import TurnTaking.Lexicon.Tokens
import TurnTaking.Lexicon.Vocabulary
import TurnTaking.Log.Entry
import TurnTaking.Log.Level
import TurnTaking.Main
import TurnTaking.Number.Binary
import TurnTaking.Number.Numeral
import TurnTaking.Number.Power
import TurnTaking.Number.Shortest
import TurnTaking.Number.Written
import TurnTaking.Proofs.Accounting
import TurnTaking.Proofs.Attribution
import TurnTaking.Proofs.Checkups
import TurnTaking.Proofs.Confidences
import TurnTaking.Proofs.DecisionRules
import TurnTaking.Proofs.DecodedValues
import TurnTaking.Proofs.DocumentTexts
import TurnTaking.Proofs.EncodedValues
import TurnTaking.Proofs.Expressions
import TurnTaking.Proofs.FirstFailure
import TurnTaking.Proofs.ForwardSearch
import TurnTaking.Proofs.GateOperations
import TurnTaking.Proofs.IgnorePhrases
import TurnTaking.Proofs.InterpolatedPhrases
import TurnTaking.Proofs.Interruptions
import TurnTaking.Proofs.JoinedTexts
import TurnTaking.Proofs.JsonLines
import TurnTaking.Proofs.JsonNumbers
import TurnTaking.Proofs.JsonScanning
import TurnTaking.Proofs.LargerLists
import TurnTaking.Proofs.Layering
import TurnTaking.Proofs.Letters
import TurnTaking.Proofs.LevelInForce
import TurnTaking.Proofs.LoadedFilter
import TurnTaking.Proofs.NamedLayers
import TurnTaking.Proofs.NumberValues
import TurnTaking.Proofs.PartialUtterances
import TurnTaking.Proofs.PhraseLists
import TurnTaking.Proofs.PolicyFailures
import TurnTaking.Proofs.Punctuation
import TurnTaking.Proofs.QuotedExpressions
import TurnTaking.Proofs.RecordedSession
import TurnTaking.Proofs.ReplayedAgain
import TurnTaking.Proofs.ReplayedVerdicts
import TurnTaking.Proofs.Replaying
import TurnTaking.Proofs.Routing
import TurnTaking.Proofs.Segmentation
import TurnTaking.Proofs.SessionSteps
import TurnTaking.Proofs.SessionTrace
import TurnTaking.Proofs.SettingValues
import TurnTaking.Proofs.SettingsFile
import TurnTaking.Proofs.SharedSettings
import TurnTaking.Proofs.SpeakingLog
import TurnTaking.Proofs.Templates
import TurnTaking.Proofs.TitleCase
import TurnTaking.Proofs.Tokenization
import TurnTaking.Proofs.Trimming
import TurnTaking.Proofs.UnreadableLines
import TurnTaking.Proofs.Validation
import TurnTaking.Proofs.WrittenRecords
import TurnTaking.Proofs.WrittenValues
import TurnTaking.Report.Checkup
import TurnTaking.Report.Payload
import TurnTaking.Report.Replay
import TurnTaking.Report.Sources
import TurnTaking.Report.Verdict
import TurnTaking.Settings.Basic
import TurnTaking.Settings.Interpolation
import TurnTaking.Settings.Layer
import TurnTaking.Settings.Load
import TurnTaking.Settings.LogFormat
import TurnTaking.Text.Blank
import TurnTaking.Text.Hex
import TurnTaking.Text.Hidden
import TurnTaking.Text.Letter
import TurnTaking.Text.Lowercase
import TurnTaking.Text.Quoted
import TurnTaking.Text.Span
import TurnTaking.Time.Calendar
import TurnTaking.Time.Timestamp
import TurnTaking.Toml.Document
import TurnTaking.Toml.Inspected
import TurnTaking.Toml.Scalar
import TurnTaking.Toml.Text
import TurnTaking.Toml.Value
import TurnTaking.World.Basic
import TurnTaking.World.Directory
import TurnTaking.World.Variables
