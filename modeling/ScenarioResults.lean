import ScenarioResults.Backend.Prompt
import ScenarioResults.Backend.Sampled
import ScenarioResults.Backend.Scripted
import ScenarioResults.Embedder.Recorder
import ScenarioResults.Main
import ScenarioResults.Proofs.Coordinator.History
import ScenarioResults.Proofs.Coordinator.Coherence
import ScenarioResults.Proofs.Form.Shape
import ScenarioResults.Proofs.Page.Action
import ScenarioResults.Proofs.Page.Course
import ScenarioResults.Proofs.Page.Fetching
import ScenarioResults.Proofs.Page.Pending
import ScenarioResults.Proofs.Page.Observed
import ScenarioResults.Proofs.Page.Conservation
import ScenarioResults.Proofs.Page.Shown
import ScenarioResults.Proofs.Text.Percent
import ScenarioResults.Proofs.Surface.Name
import ScenarioResults.Proofs.PlotPage.File
import ScenarioResults.Proofs.Page.Filed
import ScenarioResults.Proofs.Json.Literal
import ScenarioResults.Proofs.PlotPage.Closing
import ScenarioResults.Proofs.Client.Reply
import ScenarioResults.Proofs.CommandLine.View
import ScenarioResults.Proofs.Coordinator.Log
import ScenarioResults.Proofs.Form.Action
import ScenarioResults.Proofs.Page.Arrival
import ScenarioResults.Proofs.Surface.Request
import ScenarioResults.Proofs.Page.Drawing
import ScenarioResults.Proofs.Page.Paired
import ScenarioResults.Proofs.Page.Offer
import ScenarioResults.Proofs.Backend.Sampled
import ScenarioResults.Proofs.Page.Deferral
import ScenarioResults.Proofs.Client.Asking
import ScenarioResults.Proofs.CommandLine.Requests
import ScenarioResults.Proofs.Page.Refusal
import ScenarioResults.Proofs.Page.Notified
import ScenarioResults.Proofs.Form.Typed
import ScenarioResults.Proofs.Page.Typed
import ScenarioResults.Proofs.Page.Loading
import ScenarioResults.Proofs.Url.Segments
import ScenarioResults.Proofs.Client.Address
import ScenarioResults.Proofs.Coordinator.Failure
import ScenarioResults.Proofs.Coordinator.Kind
import ScenarioResults.Proofs.Coordinator.Locality
import ScenarioResults.Proofs.Form.Written
import ScenarioResults.Proofs.Decimal.Shortest
import ScenarioResults.Proofs.Json.Numeral
import ScenarioResults.Proofs.Json.Scan
import ScenarioResults.Proofs.Json.Compact
import ScenarioResults.Proofs.PlotPage.Item
import ScenarioResults.Proofs.Json.Members
import ScenarioResults.Proofs.Client.Message
import ScenarioResults.Proofs.Client.Description
import ScenarioResults.Proofs.Client.Rows
import ScenarioResults.Proofs.Table.Printed
import ScenarioResults.Proofs.PlotPage.Place
import ScenarioResults.Proofs.CommandLine.Grammar
import ScenarioResults.Proofs.Config.Timeout
import ScenarioResults.Proofs.Config.Usable
import ScenarioResults.Proofs.Form.Agreement
import ScenarioResults.Proofs.Scenario.Route
import ScenarioResults.Proofs.Config.Template
import ScenarioResults.Proofs.Text.Markup
import ScenarioResults.Proofs.Sample.Draws
import ScenarioResults.Proofs.Sample.Tables
