import ReceiptFleet.Binary64.Basic
import ReceiptFleet.Binary64.Decimal
import ReceiptFleet.Fleet.Basic
import ReceiptFleet.Fleet.Call
import ReceiptFleet.Fleet.Poller
import ReceiptFleet.Fleet.Registry
import ReceiptFleet.Fleet.Subscription
import ReceiptFleet.Job.Basic
import ReceiptFleet.Job.Formatting
import ReceiptFleet.Job.Instruction
import ReceiptFleet.Keyed
import ReceiptFleet.Main
import ReceiptFleet.Markup.Compile
import ReceiptFleet.Markup.Document
import ReceiptFleet.Markup.Parse
import ReceiptFleet.Markup.Tag
import ReceiptFleet.Markup.Xml.Character
import ReceiptFleet.Markup.Xml.Content
import ReceiptFleet.Markup.Xml.Namespace
import ReceiptFleet.Markup.Xml.Scan
import ReceiptFleet.Markup.Xml.Token
import ReceiptFleet.Markup.Xml.Tree
import ReceiptFleet.Markup.Xml.Value
import ReceiptFleet.Printer.Address
import ReceiptFleet.Printer.Fault
import ReceiptFleet.Printer.Network
import ReceiptFleet.Proofs.Fleet.AccessLogs
import ReceiptFleet.Proofs.Fleet.Accesses
import ReceiptFleet.Proofs.Fleet.Engagement
import ReceiptFleet.Proofs.Fleet.Exclusion
import ReceiptFleet.Proofs.Fleet.FirstOpening
import ReceiptFleet.Proofs.Fleet.ForcedClose
import ReceiptFleet.Proofs.Fleet.Interference
import ReceiptFleet.Proofs.Fleet.Journals
import ReceiptFleet.Proofs.Fleet.PollRuns
import ReceiptFleet.Proofs.Fleet.Polls
import ReceiptFleet.Proofs.Fleet.Printing
import ReceiptFleet.Proofs.Fleet.Queues
import ReceiptFleet.Proofs.Fleet.Registrations
import ReceiptFleet.Proofs.Fleet.Removals
import ReceiptFleet.Proofs.Fleet.Reports
import ReceiptFleet.Proofs.Fleet.Retirement
import ReceiptFleet.Proofs.Fleet.Snapshots
import ReceiptFleet.Proofs.Fleet.StatusChanges
import ReceiptFleet.Proofs.Fleet.Steps
import ReceiptFleet.Proofs.Fleet.Teardown
import ReceiptFleet.Proofs.Fleet.Turns
import ReceiptFleet.Proofs.Fleet.WindingUp
import ReceiptFleet.Proofs.Keyed
import ReceiptFleet.Proofs.Markup.Comments
import ReceiptFleet.Proofs.Markup.Emission
import ReceiptFleet.Proofs.Markup.FormattingReplay
import ReceiptFleet.Proofs.Markup.Indentation
import ReceiptFleet.Proofs.Markup.NormalText
import ReceiptFleet.Proofs.Markup.ParsedText
import ReceiptFleet.Proofs.Markup.Places
import ReceiptFleet.Proofs.Markup.PrintedAlike
import ReceiptFleet.Proofs.Markup.PrintedApart
import ReceiptFleet.Proofs.Markup.PrintedText
import ReceiptFleet.Proofs.Markup.Readers
import ReceiptFleet.Proofs.Markup.RelatedTrees
import ReceiptFleet.Proofs.Markup.RowFormatting
import ReceiptFleet.Proofs.Markup.Separators
import ReceiptFleet.Proofs.Markup.TableDefinitions
import ReceiptFleet.Proofs.Markup.TableRows
import ReceiptFleet.Proofs.Markup.TextCuts
import ReceiptFleet.Proofs.Markup.TextRoles
import ReceiptFleet.Proofs.Markup.Underlining
import ReceiptFleet.Proofs.Markup.UnknownElements
import ReceiptFleet.Proofs.Markup.WholeLines
import ReceiptFleet.Proofs.Printer.AddressTexts
import ReceiptFleet.Proofs.Printer.Hosts
import ReceiptFleet.Proofs.Printer.LateAnswers
import ReceiptFleet.Proofs.Printer.Transcripts
import ReceiptFleet.Proofs.Server.Endpoints
import ReceiptFleet.Proofs.Status.Equality
import ReceiptFleet.Proofs.Status.JsonForm
import ReceiptFleet.Proofs.Table.Conservation
import ReceiptFleet.Proofs.Table.Fitting
import ReceiptFleet.Proofs.Table.Observation
import ReceiptFleet.Proofs.Table.RowOrder
import ReceiptFleet.Proofs.Table.Rows
import ReceiptFleet.Proofs.Table.Sharing
import ReceiptFleet.Proofs.Table.WordLayout
import ReceiptFleet.Proofs.Text.Digits
import ReceiptFleet.Proofs.Text.GbkBytes
import ReceiptFleet.Proofs.Text.Pieces
import ReceiptFleet.Proofs.Text.Trimming
import ReceiptFleet.Proofs.Text.Utf8
import ReceiptFleet.Proofs.Wire.Commands
import ReceiptFleet.Proofs.Wire.Cuts
import ReceiptFleet.Proofs.Wire.Initializations
import ReceiptFleet.Proofs.Wire.Modes
import ReceiptFleet.Proofs.Wire.Readback
import ReceiptFleet.Proofs.Wire.SafeCuts
import ReceiptFleet.Proofs.Wire.SentWidth
import ReceiptFleet.Proofs.Wire.Texts
import ReceiptFleet.Server.Endpoint
import ReceiptFleet.Server.EnvFile
import ReceiptFleet.Server.Files
import ReceiptFleet.Server.LogFilter
import ReceiptFleet.Server.Session
import ReceiptFleet.Server.Settings
import ReceiptFleet.Simulation.Device
import ReceiptFleet.Simulation.Recorder
import ReceiptFleet.Simulation.Task
import ReceiptFleet.Simulation.World
import ReceiptFleet.Status.Basic
import ReceiptFleet.Status.Json
import ReceiptFleet.Status.Request
import ReceiptFleet.Table.Basic
import ReceiptFleet.Table.Column
import ReceiptFleet.Table.Layout
import ReceiptFleet.Text.Alphanumeric
import ReceiptFleet.Text.Blank
import ReceiptFleet.Text.Digits
import ReceiptFleet.Text.Gbk
import ReceiptFleet.Text.Gbk.Index
import ReceiptFleet.Text.Pieces
import ReceiptFleet.Text.Utf8
import ReceiptFleet.Wire.ChineseMode
import ReceiptFleet.Wire.Command
