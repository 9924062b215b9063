import StorageSurvey.CommandLine.Options
import StorageSurvey.CommandLine.Place
import StorageSurvey.CommandLine.Reading
import StorageSurvey.CommandLine.Request
import StorageSurvey.CommandLine.Token
import StorageSurvey.Commands.Builtin
import StorageSurvey.Commands.Describe
import StorageSurvey.Commands.Get
import StorageSurvey.Commands.Registry
import StorageSurvey.Document.Datum
import StorageSurvey.Document.Fault
import StorageSurvey.Document.Reader
import StorageSurvey.Document.Tree
import StorageSurvey.Failure
import StorageSurvey.Inventory.ByteSize
import StorageSurvey.Inventory.Capacity
import StorageSurvey.Inventory.Labels
import StorageSurvey.Inventory.Node
import StorageSurvey.Inventory.Schema
import StorageSurvey.Inventory.Snapshot
import StorageSurvey.Inventory.SnapshotText
import StorageSurvey.Inventory.Volume
import StorageSurvey.Inventory.Workload
import StorageSurvey.Inventory.Written
import StorageSurvey.Json.Dialect
import StorageSurvey.Json.Number
import StorageSurvey.Json.Printer
import StorageSurvey.Json.Token
import StorageSurvey.Json.Tree
import StorageSurvey.Main
import StorageSurvey.Number.Binary64
import StorageSurvey.Number.Rounding
import StorageSurvey.Number.Shortest
import StorageSurvey.Orchestrator.Objects
import StorageSurvey.Orchestrator.Schema
import StorageSurvey.Program.Run
import StorageSurvey.Proofs.CommandLine.Environment
import StorageSurvey.Proofs.CommandLine.Items
import StorageSurvey.Proofs.CommandLine.Places
import StorageSurvey.Proofs.CommandLine.Rearrangement
import StorageSurvey.Proofs.CommandLine.Scanning
import StorageSurvey.Proofs.CommandLine.Spelling
import StorageSurvey.Proofs.Commands.Answers
import StorageSurvey.Proofs.Commands.Conservation
import StorageSurvey.Proofs.Commands.Consumers
import StorageSurvey.Proofs.Commands.MountingPods
import StorageSurvey.Proofs.Commands.Namespaces
import StorageSurvey.Proofs.Commands.NodeOrder
import StorageSurvey.Proofs.Commands.Notations
import StorageSurvey.Proofs.Commands.Outcomes
import StorageSurvey.Proofs.Commands.Registrations
import StorageSurvey.Proofs.Commands.Resources
import StorageSurvey.Proofs.Commands.ShownClaims
import StorageSurvey.Proofs.Commands.ShownVolumes
import StorageSurvey.Proofs.Commands.VolumeLookups
import StorageSurvey.Proofs.Document.Decoding
import StorageSurvey.Proofs.Document.Reading
import StorageSurvey.Proofs.Document.Written
import StorageSurvey.Proofs.Except
import StorageSurvey.Proofs.Inventory.Conformity
import StorageSurvey.Proofs.Inventory.Records
import StorageSurvey.Proofs.Inventory.RoundTrip
import StorageSurvey.Proofs.Json.Grammar
import StorageSurvey.Proofs.Json.Kinds
import StorageSurvey.Proofs.Json.OneLine
import StorageSurvey.Proofs.Json.Records
import StorageSurvey.Proofs.Json.Tokens
import StorageSurvey.Proofs.Json.Trees
import StorageSurvey.Proofs.Number.Digits
import StorageSurvey.Proofs.Orchestrator.Declarations
import StorageSurvey.Proofs.Orchestrator.Mounts
import StorageSurvey.Proofs.Program.Directories
import StorageSurvey.Proofs.Program.Exports
import StorageSurvey.Proofs.Program.Printed
import StorageSurvey.Proofs.Program.Unmatched
import StorageSurvey.Proofs.Report.Alignment
import StorageSurvey.Proofs.Report.Decoding
import StorageSurvey.Proofs.Report.NoResources
import StorageSurvey.Proofs.Report.NodeTables
import StorageSurvey.Proofs.Report.Results
import StorageSurvey.Proofs.Report.Showing
import StorageSurvey.Proofs.Report.Totals
import StorageSurvey.Proofs.Sources.FirstFailure
import StorageSurvey.Proofs.Sources.Loading
import StorageSurvey.Proofs.Sources.SameFile
import StorageSurvey.Proofs.Sources.Watching
import StorageSurvey.Proofs.Survey.Batches
import StorageSurvey.Proofs.Survey.Containers
import StorageSurvey.Proofs.Survey.Defects
import StorageSurvey.Proofs.Survey.Exchange
import StorageSurvey.Proofs.Survey.Groups
import StorageSurvey.Proofs.Survey.Joins
import StorageSurvey.Proofs.Survey.LastRecords
import StorageSurvey.Proofs.Survey.LastWrites
import StorageSurvey.Proofs.Survey.Lookups
import StorageSurvey.Proofs.Survey.References
import StorageSurvey.Proofs.Survey.Representation
import StorageSurvey.Proofs.Survey.Selections
import StorageSurvey.Proofs.Survey.Topologies
import StorageSurvey.Proofs.Text.Columns
import StorageSurvey.Proofs.Text.Trimming
import StorageSurvey.Proofs.Time.Reading
import StorageSurvey.Proofs.Yaml.Characters
import StorageSurvey.Proofs.Yaml.DoubleQuotes
import StorageSurvey.Proofs.Yaml.Endings
import StorageSurvey.Proofs.Yaml.Keys
import StorageSurvey.Proofs.Yaml.LastText
import StorageSurvey.Proofs.Yaml.Lines
import StorageSurvey.Proofs.Yaml.LiteralBlocks
import StorageSurvey.Proofs.Yaml.LostTexts
import StorageSurvey.Proofs.Yaml.Occurrences
import StorageSurvey.Proofs.Yaml.PlainScalars
import StorageSurvey.Proofs.Yaml.Runs
import StorageSurvey.Proofs.Yaml.Scalars
import StorageSurvey.Proofs.Yaml.SingleQuotes
import StorageSurvey.Proofs.Yaml.Steps
import StorageSurvey.Proofs.Yaml.Tokens
import StorageSurvey.Proofs.Yaml.Trees
import StorageSurvey.Proofs.Yaml.Trimming
import StorageSurvey.Proofs.Yaml.Understanding
import StorageSurvey.Report.Description
import StorageSurvey.Report.Format
import StorageSurvey.Report.Listing
import StorageSurvey.Sources.Directory
import StorageSurvey.Sources.Fetch
import StorageSurvey.Sources.File
import StorageSurvey.Sources.Load
import StorageSurvey.Survey.Attachment
import StorageSurvey.Survey.Catalog
import StorageSurvey.Survey.Correlation
import StorageSurvey.Survey.Exchange
import StorageSurvey.Survey.Index
import StorageSurvey.Survey.Nodes
import StorageSurvey.Survey.Replication
import StorageSurvey.Survey.Selection
import StorageSurvey.Survey.View
import StorageSurvey.Survey.Volumes
import StorageSurvey.Survey.Workloads
import StorageSurvey.Text.Blank
import StorageSurvey.Text.Columns
import StorageSurvey.Text.EmojiTable
import StorageSurvey.Text.Following
import StorageSurvey.Text.Ligature
import StorageSurvey.Text.PrintTable
import StorageSurvey.Text.Quoted
import StorageSurvey.Text.Ranges
import StorageSurvey.Text.Width
import StorageSurvey.Text.WidthTable
import StorageSurvey.Time.Date
import StorageSurvey.Time.Duration
import StorageSurvey.Time.Instant
import StorageSurvey.Time.Reader
import StorageSurvey.Yaml.BlockScalar
import StorageSurvey.Yaml.Cursor
import StorageSurvey.Yaml.Dialect
import StorageSurvey.Yaml.Folding
import StorageSurvey.Yaml.Layout
import StorageSurvey.Yaml.Plain
import StorageSurvey.Yaml.PlainScalar
import StorageSurvey.Yaml.Presentation
import StorageSurvey.Yaml.Printer
import StorageSurvey.Yaml.QuotedScalar
import StorageSurvey.Yaml.Tag
import StorageSurvey.Yaml.Token
import StorageSurvey.Yaml.Tree
