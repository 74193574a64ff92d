import Liveness.Text.Basic
import Liveness.Text.Utf8
import Liveness.Text.Quoted
import Liveness.Text.Plain
import Liveness.Text.Filled
import Liveness.Text.Numeral
import Liveness.Decimal.Binary64
import Liveness.Duration
import Liveness.Path
import Liveness.Endpoint
import Liveness.Net.Address
import Liveness.Net.Host
import Liveness.Net.Fault
import Liveness.Probe.Error
import Liveness.Request.Reader
import Liveness.StatusLine
import Liveness.Association
import Liveness.Link.NetworkManager
import Liveness.Supervisor.Run
import Liveness.Indicator
import Liveness.Toml.Document
import Liveness.Settings.Loading
import Liveness.Settings.Agent
import Liveness.Settings.Printer
import Liveness.Diagnostic
import Liveness.CommandLine.Execution
import Liveness.Main
import Liveness.Proofs.Text.Utf8
import Liveness.Proofs.Agent.Validation
import Liveness.Proofs.Endpoint.WellFormed
import Liveness.Proofs.Request.Framing
import Liveness.Proofs.Association.Polling
import Liveness.Proofs.Event.Lamp
import Liveness.Proofs.Indicator.Skipping
import Liveness.Proofs.Supervisor.Step
import Liveness.Proofs.Supervisor.Lamp
import Liveness.Proofs.Link.NetworkManager
import Liveness.Proofs.Supervisor.Phases
import Liveness.Proofs.Supervisor.Streak
import Liveness.Proofs.Link.Polling
import Liveness.Proofs.Endpoint.Joining
import Liveness.Proofs.Text.Numeral
import Liveness.Proofs.Endpoint.Grammar
import Liveness.Proofs.Endpoint.Display
import Liveness.Proofs.Net.Connection
import Liveness.Proofs.Probe.Attempt
import Liveness.Proofs.Net.Lifetime
import Liveness.Proofs.Probe.Release
import Liveness.Proofs.Agent.Agreement
import Liveness.Proofs.Net.ServerName
import Liveness.Proofs.Agent.Naming
import Liveness.Proofs.Settings.OneProbe
import Liveness.Proofs.Settings.Layers
import Liveness.Proofs.Settings.Setting
import Liveness.Proofs.Settings.Reading
import Liveness.Proofs.Settings.Variables
import Liveness.Proofs.Settings.Precedence
import Liveness.Proofs.Settings.Verbatim
import Liveness.Proofs.Settings.OneVariable
import Liveness.Proofs.Net.Line
import Liveness.Proofs.Probe.Answer
import Liveness.Proofs.Net.Pieces
import Liveness.Proofs.Probe.Reading
import Liveness.Proofs.Association.Attempt
import Liveness.Proofs.Link.Discipline
import Liveness.Proofs.Settings.Demands
import Liveness.Proofs.Event.Stamps
import Liveness.Proofs.Supervisor.Clock
import Liveness.Proofs.Supervisor.Schedule
import Liveness.Proofs.Supervisor.Cancelling
import Liveness.Proofs.CommandLine.ProbeExit
import Liveness.Proofs.CommandLine.Showing
import Liveness.Proofs.Settings.Secrets
import Liveness.Proofs.Toml.Document
import Liveness.Proofs.Settings.RoundTrip
