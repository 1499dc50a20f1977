import BusBridge.Bus
import BusBridge.Command
import BusBridge.CommandLine.Help
import BusBridge.CommandLine.Level
import BusBridge.CommandLine.Request
import BusBridge.CommandLine.Split
import BusBridge.CommandLine.Token
import BusBridge.CommandLine.UsageError
import BusBridge.CommandLine.Writing
import BusBridge.Daemon
import BusBridge.Double
import BusBridge.Double.Reading
import BusBridge.Double.Shortest
import BusBridge.Interface
import BusBridge.Interface.Nickel
import BusBridge.Introspection
import BusBridge.Invocation
import BusBridge.Json
import BusBridge.Json.Reader
import BusBridge.Log
import BusBridge.Log.Filter
import BusBridge.Logging
import BusBridge.Main
import BusBridge.NamedChoices
import BusBridge.Notification
import BusBridge.Output
import BusBridge.Rehearsal
import BusBridge.Rehearsal.Patience
import BusBridge.Run
import BusBridge.Run.Course
import BusBridge.Run.Stages
import BusBridge.RunError
import BusBridge.Scalar
import BusBridge.Scalar.Integer
import BusBridge.ScriptedBus
import BusBridge.Session
import BusBridge.SessionError
import BusBridge.Settings
import BusBridge.Settings.Document
import BusBridge.Settings.Environment
import BusBridge.Settings.File
import BusBridge.Settings.Flags
import BusBridge.Settings.Layer
import BusBridge.Settings.Load
import BusBridge.Text.Alphanumeric
import BusBridge.Text.Blank
import BusBridge.Text.Quoted
import BusBridge.Text.RawText
import BusBridge.Text.Unprintable
import BusBridge.Toml
import BusBridge.Toml.Reader
import BusBridge.Toml.Scalar
import BusBridge.Toml.Text
import BusBridge.Value
import BusBridge.Value.Coercion
import BusBridge.Value.Json
import BusBridge.Waiting.Limit
import BusBridge.Waiting.Race
import BusBridge.Waiting.Schedule
import BusBridge.Waiting.Timely
import BusBridge.Waiting.SignalSet
import BusBridge.Waiting.Wait
import BusBridge.Wire
import BusBridge.Wire.Body
import BusBridge.Wire.Rendering
import BusBridge.Wire.Signature
import BusBridge.World
import BusBridge.Xml
import BusBridge.Xml.Reader
import BusBridge.ScriptedBus.Usage
import BusBridge.Proofs.Race
import BusBridge.Proofs.RaceTime
import BusBridge.Proofs.Session
import BusBridge.Proofs.CallAndWait
import BusBridge.Proofs.Requests
import BusBridge.Proofs.Mailboxes
import BusBridge.Proofs.Delivery
import BusBridge.Proofs.Readings
import BusBridge.Proofs.TimedWait
import BusBridge.Proofs.JointCompletion
import BusBridge.Proofs.StepOperations
import BusBridge.Proofs.Subscriptions
import BusBridge.Proofs.ArmedWaits
import BusBridge.Proofs.Overloads
import BusBridge.Proofs.RunStreams
import BusBridge.Proofs.LeadingFlags
import BusBridge.Proofs.RunOrder
import BusBridge.Proofs.CallBodies
import BusBridge.Proofs.LevelReading
import BusBridge.Proofs.WrittenRequests
import BusBridge.Proofs.DescribedSelection
import BusBridge.Proofs.Rejections
import BusBridge.Proofs.IntegerReading
import BusBridge.Proofs.IntegerTokens
import BusBridge.Proofs.ReadableText
import BusBridge.Proofs.ExactSplit
import BusBridge.Settings.Sources
import BusBridge.Toml.Writing
import BusBridge.Settings.Choices
import BusBridge.Proofs.ContinuedReading
import BusBridge.Proofs.SettingFlags
import BusBridge.Proofs.WrittenDocument
import BusBridge.Proofs.WrittenChoices
import BusBridge.Proofs.LayeredSettings
import BusBridge.Proofs.LimitedOutput
import BusBridge.Proofs.JsonReading
import BusBridge.Proofs.JsonLines
import BusBridge.Proofs.LayoutReading
import BusBridge.Proofs.OptionPlacement
import BusBridge.Proofs.FilterSources
import BusBridge.Wire.Layers
import BusBridge.Proofs.SingleSettings
import BusBridge.Proofs.Spellings
import BusBridge.Proofs.CarriedElements
import BusBridge.Proofs.VariantLayers
import BusBridge.Proofs.ShortNames
import BusBridge.Proofs.SignalOrder
import BusBridge.Proofs.CheckedCommands
import BusBridge.Interface.Listing
import BusBridge.Proofs.ListingReading
import BusBridge.Proofs.ListedMembers
import BusBridge.Proofs.JsonInterfaces
import BusBridge.Proofs.SettingMembers
import BusBridge.Proofs.CanonicalTokens
import BusBridge.Proofs.RaceReports
import BusBridge.Proofs.ReportedOnce
import BusBridge.Proofs.IntegerFaults
import BusBridge.Proofs.PromptDaemon
