import Liveness.Settings.Basic
import Liveness.Settings.Environment
import Liveness.Settings.Error

/-! What the agent needs, from settings and the variables that they name. -/
namespace Liveness.Settings

/-- A secret: the text of the variable that is named, else what is given as it is. A variable that
is named but not set is an error, so that no wrong secret is used in its place. -/
def resolve (environment : Environment) (field : String) (given named : Option String) :
    Except SettingsError (Option String) :=
  match named with
  | none => .ok given
  | some name =>
    match environment.text? name with
    | some text => .ok (some text)
    | none => .error (.variableMissing field name)

/-- The secret of the network; no secret is an empty one. -/
def Wifi.resolvedSecret (environment : Environment) (w : Wifi) : Except SettingsError String :=
  (resolve environment "wifi.psk_env" w.secret w.secretVariable).map (·.getD "")

def Monitor.resolvedToken (environment : Environment) (m : Monitor) :
    Except SettingsError (Option String) :=
  resolve environment "monitor.token_env" m.token m.tokenVariable

def Wifi.link (w : Wifi) : LinkBackend :=
  match w.backend with
  | .networkManager => .networkManager w.interface
  | .fixed => .fixed

def Monitor.baseUrl (m : Monitor) : Except SettingsError String :=
  let url := Text.trim (m.url.getD "")
  if url = "" then .error (.setting .urlMissing) else .ok url

def Monitor.probeMethod (m : Monitor) : Except SettingsError Method :=
  match Method.ofName? m.method with
  | some method => .ok method
  | none => .error (.setting (.methodUnknown m.method))

def compose (environment : Environment) (s : Settings) : Except SettingsError AgentConfig := do
  let url ← s.monitor.baseUrl
  let method ← s.monitor.probeMethod
  let token ← s.monitor.resolvedToken environment
  let secret ← s.wifi.resolvedSecret environment
  return {
    link := s.wifi.link
    network := ⟨s.wifi.ssid, secret⟩
    probe := ⟨url, s.monitor.path, method, token⟩
    transport := ⟨if s.monitor.insecure then .acceptAny else .disabled, seconds s.monitor.timeout⟩
    backoff := s.timing.backoff }

def toAgent (environment : Environment) (s : Settings) :
    Except SettingsError (AgentConfig × Endpoint) := do
  let agent ← s.compose environment
  let target ← agent.validate.mapError .agent
  return (agent, target)

/-- The agent that makes one probe. It leaves the link alone, so no network has to be named. -/
def toProbeAgent (environment : Environment) (s : Settings) : Except SettingsError AgentConfig :=
  ({ s with wifi := { s.wifi with backend := .fixed } }.toAgent environment).map Prod.fst

end Liveness.Settings
