import PageFlow.Action
import PageFlow.Actions.Element
import PageFlow.Actions.Http
import PageFlow.Actions.Navigation
import PageFlow.Actions.Page
import PageFlow.Actions.Pdf
import PageFlow.Actions.Table
import PageFlow.Chromium.Backend
import PageFlow.Chromium.Browser
import PageFlow.Chromium.Element
import PageFlow.Chromium.LoadWatch
import PageFlow.Chromium.Lookup
import PageFlow.Chromium.Marking
import PageFlow.Chromium.Page
import PageFlow.Chromium.Remote
import PageFlow.Chromium.Script
import PageFlow.CommandLine.Arguments
import PageFlow.CommandLine.Program
import PageFlow.Config
import PageFlow.Decimal.Reading
import PageFlow.Decimal.Shortest
import PageFlow.DevTools.Call
import PageFlow.Duration
import PageFlow.Engine.Context
import PageFlow.Engine.Handle
import PageFlow.Engine.Host
import PageFlow.Engine.Interpreter
import PageFlow.Engine.Locator
import PageFlow.Engine.Op
import PageFlow.Engine.Pool
import PageFlow.Engine.Registry
import PageFlow.Engine.Repeat
import PageFlow.Engine.Service
import PageFlow.FlowError
import PageFlow.Grammar
import PageFlow.Http.Chunked
import PageFlow.Http.Client
import PageFlow.Http.Cookie
import PageFlow.Http.CookieDate
import PageFlow.Http.DomainName
import PageFlow.Http.Host
import PageFlow.Http.Message
import PageFlow.Http.NameMapping
import PageFlow.Http.Punycode
import PageFlow.Http.Reference
import PageFlow.Http.Url
import PageFlow.Json.Complaint
import PageFlow.Json.Decode
import PageFlow.Json.Lenient
import PageFlow.Json.Literal
import PageFlow.Json.Printer
import PageFlow.Json.Source
import PageFlow.Json.Value
import PageFlow.Main
import PageFlow.Moment
import PageFlow.Params
import PageFlow.Pdf.Extractor
import PageFlow.Pdf.Output
import PageFlow.Powers
import PageFlow.Prog
import PageFlow.Proofs.AcceptedRuns
import PageFlow.Proofs.Acquisition
import PageFlow.Proofs.ActiveSessions
import PageFlow.Proofs.Adjacency
import PageFlow.Proofs.Attempts
import PageFlow.Proofs.ByteOrder
import PageFlow.Proofs.ClicksAndFills
import PageFlow.Proofs.ColumnNames
import PageFlow.Proofs.CommandLineRuns
import PageFlow.Proofs.Console
import PageFlow.Proofs.Delays
import PageFlow.Proofs.Disappearance
import PageFlow.Proofs.Downloads
import PageFlow.Proofs.EmptyRows
import PageFlow.Proofs.EntryPoints
import PageFlow.Proofs.Execution
import PageFlow.Proofs.Executors
import PageFlow.Proofs.Hosting
import PageFlow.Proofs.Literals
import PageFlow.Proofs.JoinedWaits
import PageFlow.Proofs.LoadWaits
import PageFlow.Proofs.LookupSteps
import PageFlow.Proofs.Looks
import PageFlow.Proofs.Lookups
import PageFlow.Proofs.MarkedLookups
import PageFlow.Proofs.MarkingScripts
import PageFlow.Proofs.MergedLines
import PageFlow.Proofs.Navigations
import PageFlow.Proofs.Objects
import PageFlow.Proofs.OpenedTargets
import PageFlow.Proofs.OwnBrowsers
import PageFlow.Proofs.PageLookups
import PageFlow.Proofs.PdfSources
import PageFlow.Proofs.Polling
import PageFlow.Proofs.PoolCalls
import PageFlow.Proofs.PooledBrowser
import PageFlow.Proofs.Readings
import PageFlow.Proofs.Records
import PageFlow.Proofs.RemoteCalls
import PageFlow.Proofs.Repetition
import PageFlow.Proofs.Reports
import PageFlow.Proofs.Requests
import PageFlow.Proofs.Resolution
import PageFlow.Proofs.Rules
import PageFlow.Proofs.RunSession
import PageFlow.Proofs.SavedReports
import PageFlow.Proofs.Selection
import PageFlow.Proofs.ServiceCalls
import PageFlow.Proofs.SharedStore
import PageFlow.Proofs.SlotRules
import PageFlow.Proofs.Stamps
import PageFlow.Proofs.StepCalls
import PageFlow.Proofs.StepValues
import PageFlow.Proofs.Steps
import PageFlow.Proofs.StrictLookups
import PageFlow.Proofs.StructuralFaults
import PageFlow.Proofs.Subjects
import PageFlow.Proofs.Tables
import PageFlow.Proofs.Tasks
import PageFlow.Proofs.Trimming
import PageFlow.Proofs.WrittenRequests
import PageFlow.Record
import PageFlow.Report
import PageFlow.Retry
import PageFlow.Scripted.Endpoint
import PageFlow.Scripted.Extractor
import PageFlow.Scripted.Queues
import PageFlow.Scripted.Reading
import PageFlow.Scripted.Server
import PageFlow.Scripted.Shell
import PageFlow.Scripted.Terminal
import PageFlow.Scripted.World
import PageFlow.Step
import PageFlow.StepValue
import PageFlow.Table
import PageFlow.Text.Base64
import PageFlow.Text.Blank
import PageFlow.Text.Composed
import PageFlow.Text.Direction
import PageFlow.Text.Hex
import PageFlow.Text.Joining
import PageFlow.Text.Marks
import PageFlow.Text.Percent
import PageFlow.Text.Printable
import PageFlow.Text.Quoted
import PageFlow.Text.Runs
import PageFlow.Text.Similar
import PageFlow.Text.Split
import PageFlow.Text.Utf8
import PageFlow.Uuid
