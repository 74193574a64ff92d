import Liveness.Settings.Agent
import Mathlib.Data.Char

/-! The agent that makes one probe, as a function of the settings. Two things of the wireless network
are still asked for on the way: nothing comes of its name, its backend and its interface, but the
variable that is named for its secret has to be set. -/
namespace Liveness

def AgentConfig.probing (c : AgentConfig) : ProbeRequest × Transport × Backoff :=
  (c.probe, c.transport, c.backoff)

/-- A link that is left alone asks nothing of the network. -/
theorem AgentConfig.validate_of_fixed {c d : AgentConfig} (hc : c.link = .fixed)
    (hd : d.link = .fixed) (h : d.probing = c.probing) : d.validate = c.validate := by
  obtain ⟨hprobe, hrest⟩ := Prod.mk.inj h
  obtain ⟨htransport, hbackoff⟩ := Prod.mk.inj hrest
  have hssid {e : AgentConfig} (he : e.link = .fixed) : e.ssidPresent = true := by
    rw [ssidPresent, he]
    rfl
  unfold validate
  rw [hssid hc, hssid hd, hprobe, htransport, hbackoff]

namespace Settings

def Monitor.request (environment : Environment) (m : Monitor) :
    Except SettingsError ProbeRequest := do
  let url ← m.baseUrl
  let method ← m.probeMethod
  let token ← m.resolvedToken environment
  return ⟨url, m.path, method, token⟩

def Monitor.transport (m : Monitor) : Transport :=
  ⟨if m.insecure then .acceptAny else .disabled, seconds m.timeout⟩

/-- The variable that is named for the network's secret, if one is named, is set. -/
def Wifi.SecretFound (environment : Environment) (w : Wifi) : Prop :=
  ∀ name, w.secretVariable = some name → (environment.text? name).isSome

variable {environment : Environment} {s s' : Settings}

theorem Wifi.resolvedSecret_of_found {w : Wifi} (h : w.SecretFound environment) :
    ∃ secret, w.resolvedSecret environment = .ok secret := by
  unfold resolvedSecret
  cases hname : w.secretVariable with
  | none => exact ⟨_, rfl⟩
  | some name =>
    obtain ⟨text, htext⟩ := Option.isSome_iff_exists.1 (h name hname)
    simp only [resolve, htext]
    exact ⟨_, rfl⟩

theorem Wifi.resolvedSecret_of_missing {w : Wifi} {name : String}
    (hname : w.secretVariable = some name) (hmissing : environment.text? name = none) :
    w.resolvedSecret environment = .error (.variableMissing "wifi.psk_env" name) := by
  simp only [resolvedSecret, hname, resolve, hmissing]
  rfl

/-- The conversion asks the monitor's settings first, then the network's secret. -/
theorem compose_eq :
    s.compose environment = (do
      let request ← s.monitor.request environment
      let secret ← s.wifi.resolvedSecret environment
      return ⟨s.wifi.link, ⟨s.wifi.ssid, secret⟩, request, s.monitor.transport,
        s.timing.backoff⟩) := by
  unfold compose Monitor.request
  cases s.monitor.baseUrl with
  | error e => rfl
  | ok url =>
    cases s.monitor.probeMethod with
    | error e => rfl
    | ok method =>
      cases s.monitor.resolvedToken environment with
      | error e => rfl
      | ok token => rfl

theorem toAgent_of_compose {agent : AgentConfig} (h : s.compose environment = .ok agent) :
    s.toAgent environment =
      (agent.validate.mapError SettingsError.agent).map fun target => (agent, target) := by
  rw [toAgent, h]
  change (do
    let target ← agent.validate.mapError SettingsError.agent
    return (agent, target)) = _
  cases agent.validate with
  | error e => rfl
  | ok target => rfl

theorem toAgent_of_compose_error {e : SettingsError} (h : s.compose environment = .error e) :
    s.toAgent environment = .error e := by
  rw [toAgent, h]
  rfl

def unlinked (s : Settings) : Settings := { s with wifi := { s.wifi with backend := .fixed } }

theorem toProbeAgent_of_error {e : SettingsError} (h : s.monitor.request environment = .error e) :
    s.toProbeAgent environment = .error e := by
  have hcompose : s.unlinked.compose environment = .error e := by
    have hrequest : s.unlinked.monitor.request environment = .error e := h
    rw [compose_eq, hrequest]
    rfl
  exact congrArg (Except.map Prod.fst) (toAgent_of_compose_error hcompose)

theorem toProbeAgent_of_missing {name : String} {request : ProbeRequest}
    (h : s.monitor.request environment = .ok request)
    (hname : s.wifi.secretVariable = some name) (hmissing : environment.text? name = none) :
    s.toProbeAgent environment = .error (.variableMissing "wifi.psk_env" name) := by
  have hcompose : s.unlinked.compose environment =
      .error (.variableMissing "wifi.psk_env" name) := by
    have hrequest : s.unlinked.monitor.request environment = .ok request := h
    have hsecret : s.unlinked.wifi.resolvedSecret environment =
        .error (.variableMissing "wifi.psk_env" name) :=
      Wifi.resolvedSecret_of_missing hname hmissing
    rw [compose_eq, hrequest, hsecret]
    rfl
  exact congrArg (Except.map Prod.fst) (toAgent_of_compose_error hcompose)

/-- Once the secret is found, the outcome is that of a configuration with the same probes. -/
theorem toProbeAgent_of_found {request : ProbeRequest}
    (h : s.monitor.request environment = .ok request) (hfound : s.wifi.SecretFound environment) :
    ∃ agent : AgentConfig, agent.link = .fixed ∧
      agent.probing = (request, s.monitor.transport, s.timing.backoff) ∧
      s.toProbeAgent environment =
        (agent.validate.mapError SettingsError.agent).map fun _ => agent := by
  obtain ⟨secret, hsecret⟩ := Wifi.resolvedSecret_of_found hfound
  have hcompose : s.unlinked.compose environment =
      .ok ⟨.fixed, ⟨s.wifi.ssid, secret⟩, request, s.monitor.transport, s.timing.backoff⟩ := by
    have hrequest : s.unlinked.monitor.request environment = .ok request := h
    have hunlinked : s.unlinked.wifi.resolvedSecret environment = .ok secret := hsecret
    rw [compose_eq, hrequest, hunlinked]
    rfl
  have hagent := congrArg (Except.map Prod.fst) (toAgent_of_compose hcompose)
  refine ⟨⟨.fixed, ⟨s.wifi.ssid, secret⟩, request, s.monitor.transport, s.timing.backoff⟩, rfl, rfl,
    hagent.trans ?_⟩
  generalize (AgentConfig.mk .fixed ⟨s.wifi.ssid, secret⟩ request s.monitor.transport
    s.timing.backoff) = agent
  cases agent.validate with
  | error e => rfl
  | ok target => rfl

/-- Settings that differ in the wireless network alone give the same probes, or the same error, as
long as each finds the secret that it names. One that does not fails for that, unless the monitor's
settings fail first. -/
theorem toProbeAgent_of_wifi (hmonitor : s'.monitor = s.monitor) (htiming : s'.timing = s.timing) :
    (s.wifi.SecretFound environment → s'.wifi.SecretFound environment →
      (s'.toProbeAgent environment).map AgentConfig.probing =
        (s.toProbeAgent environment).map AgentConfig.probing) ∧
    ∀ name, s'.wifi.secretVariable = some name → environment.text? name = none →
      s'.toProbeAgent environment = match s.monitor.request environment with
        | .error e => .error e
        | .ok _ => .error (.variableMissing "wifi.psk_env" name) := by
  constructor
  · intro hfound hfound'
    cases hrequest : s.monitor.request environment with
    | error e =>
      rw [toProbeAgent_of_error hrequest, toProbeAgent_of_error (hmonitor ▸ hrequest)]
    | ok request =>
      obtain ⟨agent, hlink, hprobing, heq⟩ := toProbeAgent_of_found hrequest hfound
      obtain ⟨agent', hlink', hprobing', heq'⟩ :=
        toProbeAgent_of_found (hmonitor ▸ hrequest) hfound'
      have hsame : agent'.probing = agent.probing := by rw [hprobing, hprobing', hmonitor, htiming]
      rw [heq, heq', AgentConfig.validate_of_fixed hlink hlink' hsame]
      cases agent.validate with
      | error e => rfl
      | ok target => exact congrArg Except.ok hsame
  · intro name hname hmissing
    cases hrequest : s.monitor.request environment with
    | error e => exact toProbeAgent_of_error (hmonitor ▸ hrequest)
    | ok request => exact toProbeAgent_of_missing (hmonitor ▸ hrequest) hname hmissing

/-- A network whose secret is found, no network at all, and one whose secret is not found. -/
theorem toProbeAgent_of_wifi_named :
    let environment : Environment := [("WIFI_PSK", "hunter22")]
    let monitor : Monitor := { Monitor.standard with url := some "http://monitor.lan" }
    let bare : Settings := { standard with monitor }
    let named (name : String) : Settings :=
      { bare with wifi := ⟨.networkManager, "lab", none, some name, some "wlan0"⟩ }
    (named "WIFI_PSK").monitor = bare.monitor ∧ (named "WIFI_PSK").timing = bare.timing ∧
      bare.wifi.SecretFound environment ∧ (named "WIFI_PSK").wifi.SecretFound environment ∧
      ((named "WIFI_PSK").toProbeAgent environment).map AgentConfig.probing =
        (bare.toProbeAgent environment).map AgentConfig.probing ∧
      environment.text? "NOWHERE" = none ∧
      (named "NOWHERE").toProbeAgent environment =
        .error (.variableMissing "wifi.psk_env" "NOWHERE") := by
  intro environment monitor bare named
  have hbare : bare.wifi.SecretFound environment := fun name hname => nomatch hname
  have hnamed : (named "WIFI_PSK").wifi.SecretFound environment := by
    intro name hname
    obtain rfl := Option.some.inj hname
    decide +kernel
  have hmissing : environment.text? "NOWHERE" = none := by decide +kernel
  have hrequest : bare.monitor.request environment =
      .ok ⟨"http://monitor.lan", livenessPath, .get, none⟩ := by decide +kernel
  have hsame := (@toProbeAgent_of_wifi environment bare (named "WIFI_PSK") rfl rfl).1 hbare hnamed
  have hfails := (@toProbeAgent_of_wifi environment bare (named "NOWHERE") rfl rfl).2 "NOWHERE" rfl
    hmissing
  rw [hrequest] at hfails
  exact ⟨rfl, rfl, hbare, hnamed, hsame, hmissing, hfails⟩

/-- A name that is not set for the network's secret makes the difference between one probe and none. -/
theorem toProbeAgent_of_missing_secret :
    let monitor : Monitor := { Monitor.standard with url := some "http://monitor.lan" }
    let bare : Settings := { standard with monitor }
    let named : Settings := { bare with wifi := { Wifi.standard with secretVariable := some "PSK" } }
    named.monitor = bare.monitor ∧ named.timing = bare.timing ∧ named.led = bare.led ∧
      (bare.toProbeAgent []).map AgentConfig.probing =
        .ok (⟨"http://monitor.lan", livenessPath, .get, none⟩, ⟨.disabled, .ofSecs 3⟩, .standard) ∧
      (named.toProbeAgent []).map AgentConfig.probing =
        .error (.variableMissing "wifi.psk_env" "PSK") := by
  intro monitor bare named
  exact ⟨rfl, rfl, rfl, by decide +kernel, by decide +kernel⟩

end Settings
end Liveness
