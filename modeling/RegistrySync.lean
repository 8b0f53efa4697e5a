import RegistrySync.Base64
import RegistrySync.Command.Basic
import RegistrySync.Command.Script
import RegistrySync.Command.Recorder
import RegistrySync.CommandLine.Arguments
import RegistrySync.Credential
import RegistrySync.Daemon.Address
import RegistrySync.Daemon.Client
import RegistrySync.Daemon.Message
import RegistrySync.Daemon.Progress
import RegistrySync.Daemon.Recorder
import RegistrySync.Daemon.Refusal
import RegistrySync.Daemon.Request
import RegistrySync.Daemon.Status
import RegistrySync.Daemon.Transport
import RegistrySync.Error
import RegistrySync.Folder
import RegistrySync.Image.Basic
import RegistrySync.Image.Inventory
import RegistrySync.Image.Reference
import RegistrySync.Json.Basic
import RegistrySync.Json.Document
import RegistrySync.Json.Fault
import RegistrySync.Json.Numeral
import RegistrySync.Json.Quotation
import RegistrySync.Json.Reading
import RegistrySync.Json.Token
import RegistrySync.Log
import RegistrySync.Main
import RegistrySync.Number.Double
import RegistrySync.Number.Notation
import RegistrySync.Number.Shortest
import RegistrySync.PingPolicy
import RegistrySync.Registry.Aws
import RegistrySync.Registry.Identity
import RegistrySync.Registry.Location
import RegistrySync.Round
import RegistrySync.Schedule.Basic
import RegistrySync.Schedule.Interleaving
import RegistrySync.Schedule.Process
import RegistrySync.Schedule.Timeline
import RegistrySync.Schedule.Timed
import RegistrySync.Schedule.Timer
import RegistrySync.Schema.Basic
import RegistrySync.Schema.Document
import RegistrySync.Schema.Json
import RegistrySync.Schema.Mismatch
import RegistrySync.Schema.Node
import RegistrySync.Session
import RegistrySync.Settings.Basic
import RegistrySync.Settings.Reading
import RegistrySync.Settings.Violation
import RegistrySync.Task
import RegistrySync.Text.Blank
import RegistrySync.Text.Cut
import RegistrySync.Text.Digits
import RegistrySync.Text.Hidden
import RegistrySync.Text.Quoted
import RegistrySync.Text.Utf8
import RegistrySync.Time.Civil
import RegistrySync.Time.Instant
import RegistrySync.Transfer
import RegistrySync.Url.Basic
import RegistrySync.Url.Fault
import RegistrySync.Url.Form
import RegistrySync.Url.Host
import RegistrySync.Url.International
import RegistrySync.Url.Ip
import RegistrySync.Url.Parse
import RegistrySync.Url.Percent
import RegistrySync.Url.Punycode
import RegistrySync.World.Basic
import RegistrySync.World.Depot
import RegistrySync.World.Recorder
import RegistrySync.World.Script
import RegistrySync.Yaml.Block
import RegistrySync.Yaml.Document
import RegistrySync.Yaml.Fault
import RegistrySync.Yaml.Glyph
import RegistrySync.Yaml.Layout
import RegistrySync.Yaml.Node
import RegistrySync.Yaml.Plain
import RegistrySync.Yaml.Property
import RegistrySync.Yaml.Quoted
import RegistrySync.Yaml.Token
import RegistrySync.Yaml.Value
import RegistrySync.Proofs.Schedule.Coalescing
import RegistrySync.Proofs.Schedule.Coverage
import RegistrySync.Proofs.Schedule.Overtaking
import RegistrySync.Proofs.Schedule.Rota
import RegistrySync.Proofs.Transfer.Course
import RegistrySync.Proofs.Text.Cut
import RegistrySync.Proofs.Except
import RegistrySync.Proofs.Mapping
import RegistrySync.Proofs.Image.Reference
import RegistrySync.Proofs.Image.Inventory
import RegistrySync.Proofs.World.Depot
import RegistrySync.Proofs.Transfer.Mirror
import RegistrySync.Proofs.Transfer.Repetition
import RegistrySync.Proofs.Text.Utf8
import RegistrySync.Proofs.Image.Parts
import RegistrySync.Proofs.Url.Percent
import RegistrySync.Proofs.Url.Form
import RegistrySync.Proofs.Url.Path
import RegistrySync.Proofs.Url.Server
import RegistrySync.Proofs.Daemon.Endpoint
import RegistrySync.Proofs.Daemon.Progress
import RegistrySync.Proofs.Image.Tagging
import RegistrySync.Proofs.Daemon.Traffic
import RegistrySync.Proofs.World.Invariant
import RegistrySync.Proofs.World.Passage
import RegistrySync.Proofs.Transfer.Delivery
import RegistrySync.Proofs.Settings.Violation
import RegistrySync.Proofs.Transfer.ListedTag
import RegistrySync.Proofs.Daemon.Listing
import RegistrySync.Proofs.Base64
import RegistrySync.Proofs.Json.Quotation
import RegistrySync.Proofs.Json.Numeral
import RegistrySync.Proofs.Json.Print
import RegistrySync.Proofs.Json.Document
import RegistrySync.Proofs.Json.Record
import RegistrySync.Proofs.Json.Sorted
import RegistrySync.Proofs.Schema.Written
import RegistrySync.Proofs.Schema.Document
import RegistrySync.Proofs.Schema.Sorted
import RegistrySync.Proofs.Credential
import RegistrySync.Proofs.Round.Course
import RegistrySync.Proofs.Round.Isolation
import RegistrySync.Proofs.Registry.Endpoint
import RegistrySync.Proofs.World.Coupling
import RegistrySync.Proofs.Round.Secrecy
import RegistrySync.Proofs.Round.Usability
import RegistrySync.Proofs.Schedule.Process
import RegistrySync.Proofs.Schedule.Clock
import RegistrySync.Proofs.Schedule.Execution
import RegistrySync.Proofs.Schedule.Shutdown
import RegistrySync.Proofs.Schedule.Lifecycle
import RegistrySync.Proofs.Schedule.Timed
import RegistrySync.Proofs.Schedule.Pace
import RegistrySync.Proofs.Image.Spelling
import RegistrySync.Proofs.Text.Infix
import RegistrySync.Proofs.Registry.Identity
import RegistrySync.Proofs.Registry.Missing
import RegistrySync.Daemon.Console
import RegistrySync.Proofs.Text.Lines
import RegistrySync.Proofs.Daemon.Attribution
import RegistrySync.Proofs.Daemon.Message
import RegistrySync.Proofs.Daemon.Report
import RegistrySync.Proofs.Daemon.Ping
import RegistrySync.Proofs.Settings.Blame
import RegistrySync.Proofs.Settings.Written
