import AgentCohort.Agent.Blueprint
import AgentCohort.Agent.Extraction
import AgentCohort.Agent.Host
import AgentCohort.Agent.Life
import AgentCohort.Agent.Message
import AgentCohort.Agent.Notice
import AgentCohort.Agent.Overlap
import AgentCohort.Agent.Registration
import AgentCohort.Agent.Service
import AgentCohort.Agent.Snapshot
import AgentCohort.Agent.Status
import AgentCohort.CommandLine
import AgentCohort.CommandLine.Parameter
import AgentCohort.CommandLine.Parser
import AgentCohort.Configuration
import AgentCohort.Configuration.Json
import AgentCohort.Configuration.Load
import AgentCohort.Double
import AgentCohort.Double.Reader
import AgentCohort.Double.Shortest
import AgentCohort.Double.Text
import AgentCohort.Duration
import AgentCohort.Failure
import AgentCohort.Instant
import AgentCohort.Instant.Reader
import AgentCohort.Json
import AgentCohort.Json.Decoder
import AgentCohort.Json.Document
import AgentCohort.Json.Fault
import AgentCohort.Json.Reader
import AgentCohort.Log.Filter
import AgentCohort.Log.Level
import AgentCohort.Main
import AgentCohort.Network.Binding
import AgentCohort.Network.Endpoint
import AgentCohort.Network.HostName
import AgentCohort.Network.Http
import AgentCohort.Network.IpAddress
import AgentCohort.Network.IpAddress.Reader
import AgentCohort.Network.MediaType
import AgentCohort.Network.Orchestrator
import AgentCohort.Network.Resolver
import AgentCohort.Network.Wire
import AgentCohort.Numeral
import AgentCohort.Program
import AgentCohort.Program.LogSetup
import AgentCohort.Program.Process
import AgentCohort.Proofs.Agent.AttemptCounter
import AgentCohort.Proofs.Agent.Clock
import AgentCohort.Proofs.Agent.Consistency
import AgentCohort.Proofs.Agent.EarlyStop
import AgentCohort.Proofs.Agent.Happenings
import AgentCohort.Proofs.Agent.Hosting
import AgentCohort.Proofs.Agent.MessageAccount
import AgentCohort.Proofs.Agent.Messages
import AgentCohort.Proofs.Agent.Ports
import AgentCohort.Proofs.Agent.RegistrationCourse
import AgentCohort.Proofs.Agent.RegistrationLoop
import AgentCohort.Proofs.Agent.SnapshotFormat
import AgentCohort.Proofs.Agent.Stages
import AgentCohort.Proofs.Agent.StatusOrder
import AgentCohort.Proofs.Agent.Termination
import AgentCohort.Proofs.Agent.WireFormats
import AgentCohort.Proofs.CommandLine.Spellings
import AgentCohort.Proofs.Configuration.Decoding
import AgentCohort.Proofs.Configuration.Integers
import AgentCohort.Proofs.Configuration.Layering
import AgentCohort.Proofs.Configuration.Layers
import AgentCohort.Proofs.Configuration.Loading
import AgentCohort.Proofs.Configuration.Overrides
import AgentCohort.Proofs.Configuration.Replacements
import AgentCohort.Proofs.Configuration.Setting
import AgentCohort.Proofs.Configuration.SingleFile
import AgentCohort.Proofs.Counters
import AgentCohort.Proofs.Double.Rounding
import AgentCohort.Proofs.Instant.Calendar
import AgentCohort.Proofs.Instant.LocalTimes
import AgentCohort.Proofs.Instant.Reading
import AgentCohort.Proofs.Instant.RoundTrip
import AgentCohort.Proofs.Json.Grammar
import AgentCohort.Proofs.Json.LargeNumbers
import AgentCohort.Proofs.Json.Members
import AgentCohort.Proofs.Json.NumberReading
import AgentCohort.Proofs.Json.Reading
import AgentCohort.Proofs.Json.Records
import AgentCohort.Proofs.Json.Sorting
import AgentCohort.Proofs.Json.TextReading
import AgentCohort.Proofs.Json.Writing
import AgentCohort.Proofs.Network.AddressReading
import AgentCohort.Proofs.Network.Allocation
import AgentCohort.Proofs.Network.AnnouncedAddresses
import AgentCohort.Proofs.Network.BaseUrl
import AgentCohort.Proofs.Network.OrchestratorText
import AgentCohort.Proofs.Network.PortCollisions
import AgentCohort.Proofs.Network.PortOverflow
import AgentCohort.Proofs.Numeral
import AgentCohort.Proofs.Results
import AgentCohort.Proofs.Settings.JsonFiles
import AgentCohort.Proofs.Settings.Lookup
import AgentCohort.Proofs.Settings.Places
import AgentCohort.Proofs.Settings.Trees
import AgentCohort.Proofs.Settings.Variables
import AgentCohort.Proofs.Settings.WholeNumbers
import AgentCohort.Proofs.Supervision.Attempts
import AgentCohort.Proofs.Supervision.Calm
import AgentCohort.Proofs.Supervision.Cohort
import AgentCohort.Proofs.Supervision.Deeds
import AgentCohort.Proofs.Supervision.Effects
import AgentCohort.Proofs.Supervision.EndTimes
import AgentCohort.Proofs.Supervision.EventProtocol
import AgentCohort.Proofs.Supervision.Execution
import AgentCohort.Proofs.Supervision.FailedLaunch
import AgentCohort.Proofs.Supervision.ForceStopFinality
import AgentCohort.Proofs.Supervision.ForceStopHandshake
import AgentCohort.Proofs.Supervision.ForceStopReach
import AgentCohort.Proofs.Supervision.Generations
import AgentCohort.Proofs.Supervision.JoinTiming
import AgentCohort.Proofs.Supervision.Joiners
import AgentCohort.Proofs.Supervision.LaunchOrder
import AgentCohort.Proofs.Supervision.Launching
import AgentCohort.Proofs.Supervision.Narration
import AgentCohort.Proofs.Supervision.Orphans
import AgentCohort.Proofs.Supervision.Pauses
import AgentCohort.Proofs.Supervision.Relaunch
import AgentCohort.Proofs.Supervision.RestartCounter
import AgentCohort.Proofs.Supervision.RestartLimit
import AgentCohort.Proofs.Supervision.SessionEnd
import AgentCohort.Proofs.Supervision.StopLedger
import AgentCohort.Proofs.Supervision.Turns
import AgentCohort.Proofs.Text.Digits
import AgentCohort.Proofs.Text.Trimming
import AgentCohort.Proofs.Toml.Documents
import AgentCohort.Proofs.Toml.Numbers
import AgentCohort.Proofs.Toml.Tables
import AgentCohort.Settings.Environment
import AgentCohort.Settings.Fault
import AgentCohort.Settings.Files
import AgentCohort.Settings.JsonFile
import AgentCohort.Settings.Path
import AgentCohort.Settings.Reading
import AgentCohort.Settings.Tree
import AgentCohort.Supervision.Behaviour
import AgentCohort.Supervision.Event
import AgentCohort.Supervision.Handshake
import AgentCohort.Supervision.Joining
import AgentCohort.Supervision.Journal
import AgentCohort.Supervision.Launch
import AgentCohort.Supervision.Notice
import AgentCohort.Supervision.Platform
import AgentCohort.Supervision.Report
import AgentCohort.Supervision.Run
import AgentCohort.Supervision.Session
import AgentCohort.Supervision.State
import AgentCohort.Supervision.System
import AgentCohort.Text.Blank
import AgentCohort.Text.Casing
import AgentCohort.Text.Digits
import AgentCohort.Text.Lowercase
import AgentCohort.Text.Printable
import AgentCohort.Text.Quoted
import AgentCohort.Toml.Document
import AgentCohort.Toml.Number
import AgentCohort.Toml.Table
import AgentCohort.Toml.Text
import AgentCohort.Toml.Time
