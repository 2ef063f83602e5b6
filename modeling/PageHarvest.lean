import PageHarvest.Browser.Page
import PageHarvest.Browser.Replay
import PageHarvest.Browser.World
import PageHarvest.CommandLine.Arguments
import PageHarvest.CommandLine.Help
import PageHarvest.CommandLine.Interface
import PageHarvest.CommandLine.Queries
import PageHarvest.CommandLine.Session
import PageHarvest.Css.Match
import PageHarvest.Css.Named
import PageHarvest.Css.Parser
import PageHarvest.Css.Selector
import PageHarvest.Css.Token
import PageHarvest.Data.Calendar
import PageHarvest.Data.Display
import PageHarvest.Data.Order
import PageHarvest.Data.Table
import PageHarvest.Data.Stack
import PageHarvest.Data.Value
import PageHarvest.Failure
import PageHarvest.Fetch.Client
import PageHarvest.Fetch.Interception
import PageHarvest.Files.Path
import PageHarvest.Files.Search
import PageHarvest.Files.Tree
import PageHarvest.Files.Wildcard
import PageHarvest.Html.Document
import PageHarvest.Html.NamedCharacter
import PageHarvest.Html.Node
import PageHarvest.Html.Place
import PageHarvest.Html.Reference
import PageHarvest.Html.Token
import PageHarvest.Json.Reader
import PageHarvest.Json.Writer
import PageHarvest.Main
import PageHarvest.Number.Binary64
import PageHarvest.Number.Decimal
import PageHarvest.Number.Display
import PageHarvest.Number.Shortest
import PageHarvest.Proofs.CommandLine.Verdict
import PageHarvest.Proofs.Css.Renumbering
import PageHarvest.Proofs.Data.Display
import PageHarvest.Proofs.Data.Order
import PageHarvest.Proofs.Data.Table
import PageHarvest.Proofs.Failure
import PageHarvest.Proofs.Fetch.Interception
import PageHarvest.Proofs.Html.Numbering
import PageHarvest.Proofs.Html.Renumbering
import PageHarvest.Proofs.Number.Rounding
import PageHarvest.Proofs.Query.Calls
import PageHarvest.Proofs.Query.Construction
import PageHarvest.Proofs.Query.Loading
import PageHarvest.Proofs.Query.Rendering
import PageHarvest.Proofs.Query.Validity
import PageHarvest.Proofs.Replay.Agreement
import PageHarvest.Proofs.Replay.Contract
import PageHarvest.Proofs.Replay.Deadline
import PageHarvest.Proofs.Replay.Log
import PageHarvest.Proofs.Replay.Meaning
import PageHarvest.Proofs.Replay.Motion
import PageHarvest.Proofs.Replay.Polling
import PageHarvest.Proofs.Replay.Recording
import PageHarvest.Proofs.Replay.Remaining
import PageHarvest.Proofs.Replay.Simulation
import PageHarvest.Proofs.Replay.StepByStep
import PageHarvest.Proofs.Replay.Steps
import PageHarvest.Proofs.Replay.Watching
import PageHarvest.Proofs.Static.Additivity
import PageHarvest.Proofs.Static.Documents
import PageHarvest.Proofs.Static.Extraction
import PageHarvest.Proofs.Static.Handles
import PageHarvest.Proofs.Static.History
import PageHarvest.Proofs.Static.Links
import PageHarvest.Proofs.Static.Motion
import PageHarvest.Proofs.Static.Reading
import PageHarvest.Proofs.Static.Sameness
import PageHarvest.Proofs.Static.Timeline
import PageHarvest.Proofs.Static.Turns
import PageHarvest.Proofs.Static.Waiting
import PageHarvest.Proofs.Url
import PageHarvest.Proofs.Yaml.Failures
import PageHarvest.Query.Builder
import PageHarvest.Query.Definition
import PageHarvest.Query.Field
import PageHarvest.Query.File
import PageHarvest.Query.Find
import PageHarvest.Query.Step
import PageHarvest.Replay.Act
import PageHarvest.Replay.Clock
import PageHarvest.Replay.Event
import PageHarvest.Replay.Handler.Basic
import PageHarvest.Replay.Handler.Eval
import PageHarvest.Replay.Handler.Group
import PageHarvest.Replay.Handler.Navigate
import PageHarvest.Replay.Handler.Select
import PageHarvest.Replay.Handler.Wait
import PageHarvest.Replay.Host
import PageHarvest.Replay.Run
import PageHarvest.Replay.State
import PageHarvest.Report.Logger
import PageHarvest.Report.Severity
import PageHarvest.Scripted.Callback
import PageHarvest.Scripted.Raised
import PageHarvest.Scripted.TablePage
import PageHarvest.Service.Api
import PageHarvest.Service.Server
import PageHarvest.Settings.Bindings
import PageHarvest.Settings.Environment
import PageHarvest.Static.Page
import PageHarvest.Static.Site
import PageHarvest.Static.World
import PageHarvest.Text.Base64
import PageHarvest.Text.Blank
import PageHarvest.Text.Case
import PageHarvest.Text.Digit
import PageHarvest.Text.Printable
import PageHarvest.Text.Quoted
import PageHarvest.Text.Sigma
import PageHarvest.Text.Utf8
import PageHarvest.Url
import PageHarvest.Yaml.Cursor
import PageHarvest.Yaml.Node
import PageHarvest.Yaml.Plain
import PageHarvest.Yaml.Scalar
import PageHarvest.Yaml.Token
import PageHarvest.Yaml.Value
import PageHarvest.Proofs.Static.Interception
import PageHarvest.Proofs.Browser.Interception
import PageHarvest.Proofs.Browser.Rewriting
import PageHarvest.Proofs.Replay.Attempts
import PageHarvest.Proofs.Replay.Opacity
import PageHarvest.Proofs.Files.Search
import PageHarvest.Proofs.Query.Find
import PageHarvest.Proofs.Service.Inline
import PageHarvest.Proofs.Replay.Retries
import PageHarvest.Proofs.Query.Fields
import PageHarvest.Proofs.Query.First
import PageHarvest.Proofs.Settings.Precedence
import PageHarvest.Proofs.Replay.Selections
import PageHarvest.Proofs.Browser.Routes
import PageHarvest.Proofs.Static.Grouping
import PageHarvest.Proofs.Replay.Waitable
import PageHarvest.Proofs.Report.Heap
