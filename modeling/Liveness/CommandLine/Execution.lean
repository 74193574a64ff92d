import Liveness.CommandLine.Arguments
import Liveness.CommandLine.Help
import Liveness.Diagnostic
import Liveness.Settings.Agent
import Liveness.Settings.Loading
import Liveness.Settings.Location
import Liveness.Settings.Printer

/-! What a command line does. All but the supervisor's run ends by itself. -/
namespace Liveness.CommandLine

/-- What a command finds around it: variables, the home directory of the account it runs for, files
by the paths that lead to them, and a network. -/
structure Surroundings where
  environment : Settings.Environment
  accountHome : Option String
  file : String → Option (List UInt8)
  network : Net.Network

/-- What a command leaves. The log is no part of it: its lines on the standard error stream, which
verbosity and the variable for the log's filter make more or fewer, are left out. -/
structure Outcome where
  exit : Nat
  stdout : String
  stderr : String
deriving DecidableEq, Repr

inductive Performed where
  | ended (outcome : Outcome)
  | supervises (agent : AgentConfig) (lamp : IndicatorTarget)

def Outcome.printed (text : String) : Outcome := ⟨0, text, ""⟩

def report (d : Diagnostic) : String :=
  let line (name : String) : Option String → String
    | none => ""
    | some s => "\ndiagnostic " ++ name ++ ": " ++ s
  d.message ++ "\n    Diagnostic severity: error" ++ line "help" d.help? ++ line "code" d.code? ++
    "\n"

def Outcome.failed (d : Diagnostic) : Outcome := ⟨d.exitCode, "", report d⟩

def Stop.outcome (environment : Settings.Environment) : Stop → Outcome
  | .help way => .printed (page environment way)
  | .version way => .printed (versionLine way)
  | .incomplete c => ⟨2, "", c.page environment⟩
  | .wrong fault => ⟨2, "", fault.message ++ "\n"⟩

/-- Options over settings. A token takes the place of a variable that is named for it. -/
def Given.override (g : Given) (s : Settings) : Settings :=
  { s with
    monitor := { s.monitor with
      url := g.url <|> s.monitor.url
      token := g.token <|> s.monitor.token
      tokenVariable := if g.token.isSome then none else s.monitor.tokenVariable
      insecure := g.insecure || s.monitor.insecure
      timeout := g.timeout.getD s.monitor.timeout } }

def Given.file (accountHome : Option String) (environment : Settings.Environment) (g : Given) :
    String :=
  g.config.getD (Settings.usualFile accountHome environment)

/-- The settings in effect. Reports name the file by its path, tidied. -/
def Given.settings (g : Given) (s : Surroundings) : Except SettingsError Settings :=
  let path := g.file s.accountHome s.environment
  (Settings.load (Path.tidy path) (s.file path) s.environment).map g.override

theorem Given.settings_eq_ok_iff {g : Given} {s : Surroundings} {settings : Settings} :
    g.settings s = .ok settings ↔
      ∃ loaded, Settings.load (Path.tidy (g.file s.accountHome s.environment))
        (s.file (g.file s.accountHome s.environment)) s.environment = .ok loaded ∧
          settings = g.override loaded := by
  rw [Given.settings]
  cases Settings.load _ _ s.environment with
  | error e => simp [Except.map]
  | ok loaded => simp [Except.map, eq_comm]

theorem Given.settings_eq_error_iff {g : Given} {s : Surroundings} {e : SettingsError} :
    g.settings s = .error e ↔
      Settings.load (Path.tidy (g.file s.accountHome s.environment))
        (s.file (g.file s.accountHome s.environment)) s.environment = .error e := by
  rw [Given.settings]
  cases Settings.load _ _ s.environment with
  | error e' => simp [Except.map]
  | ok loaded => simp [Except.map]

def Given.probeAgent (g : Given) (s : Surroundings) : Except SettingsError AgentConfig := do
  (← g.settings s).toProbeAgent s.environment

/-- One probe, which is not made unless the settings are in order. -/
def Given.probe (g : Given) (s : Surroundings) : Except SettingsError Probe.Probed := do
  let agent ← g.probeAgent s
  return Probe.run agent.probe agent.transport s.network

def probeOutcome (g : Given) (s : Surroundings) : Outcome :=
  match g.probe s with
  | .error e => .failed (.ofSettings e)
  | .ok probed =>
    match probed.result with
    | .error e => .failed (.ofAgent (.ofProbe e))
    | .ok line => .printed (line.text ++ "\n")

/-- The settings in effect, printed without their secrets. -/
def showOutcome (g : Given) (s : Surroundings) : Outcome :=
  match g.settings s >>= Settings.render with
  | .error e => .failed (.ofSettings e)
  | .ok text => .printed text

def Invocation.perform (i : Invocation) (s : Surroundings) : Performed :=
  match i.command with
  | .run =>
    match (do
      let settings ← i.given.settings s
      return (settings, ← settings.toAgent s.environment)) with
    | .error e => .ended (.failed (.ofSettings e))
    | .ok (settings, agent, _) => .supervises agent settings.target
  | .probe => .ended (probeOutcome i.given s)
  | .show => .ended (showOutcome i.given s)
  | .path => .ended (.printed (i.given.file s.accountHome s.environment ++ "\n"))
  | .completions => .ended (.printed ((i.given.shell.map Shell.script).getD ""))
  | c => .ended ((Stop.incomplete c).outcome s.environment)

def perform (words : List String) (s : Surroundings) : Performed :=
  match read s.environment words with
  | .error stop => .ended (stop.outcome s.environment)
  | .ok i => i.perform s

end Liveness.CommandLine
