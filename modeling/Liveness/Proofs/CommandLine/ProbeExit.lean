import Liveness.CommandLine.Execution
import Liveness.Proofs.Agent.Validation
import Liveness.Proofs.Probe.Attempt
import Liveness.Proofs.Settings.OneProbe

/-! How the command for one probe ends: by the stage that fails, if one does. Whatever is wrong with
the settings is found before anything is sent. -/
namespace Liveness

theorem AgentConfig.exitCode_of_refused {c : AgentConfig} {e : AgentError}
    (h : c.validate = .error e) : (Diagnostic.ofAgent e).exitCode = 3 := by
  unfold validate at h
  split at h
  · cases h
    rfl
  · split at h
    · cases h
      rfl
    · split_ifs at h
      · cases h
        rfl
      · cases h
        rfl
      · cases h
        rfl
      · split at h
        · cases h
          rfl
        · nomatch h

theorem AgentConfig.run_ne_malformedUrl {c : AgentConfig} {target : Endpoint}
    (h : c.validate = .ok target) (network : Net.Network) (e : MalformedUrl) :
    (Probe.run c.probe c.transport network).result ≠ .error (.malformedUrl e) := by
  intro he
  have htarget := (validate_eq_ok_iff.1 h).2.1
  have herror := Probe.run_eq_error htarget he
  simp [ProbeError.isExchange, ProbeError.isStream] at herror

theorem AgentError.kind?_ofProbe (e : ProbeError) : (ofProbe e).kind? = some e.kind := by
  cases e <;> rfl

namespace Settings
variable {environment : Environment} {s : Settings} {e : SettingsError}

theorem eq_variableMissing_of_resolve {field : String} {given named : Option String}
    (h : resolve environment field given named = .error e) :
    ∃ name, e = .variableMissing field name := by
  unfold resolve at h
  split at h
  · nomatch h
  · split at h
    · nomatch h
    · exact ⟨_, (Except.error.inj h).symm⟩

theorem exitCode_of_request {m : Monitor} (h : m.request environment = .error e) :
    (Diagnostic.ofSettings e).exitCode = 3 := by
  unfold Monitor.request at h
  cases hurl : m.baseUrl with
  | error e' =>
    rw [hurl] at h
    obtain rfl : e' = e := Except.error.inj h
    unfold Monitor.baseUrl at hurl
    dsimp only at hurl
    split_ifs at hurl
    cases hurl
    rfl
  | ok url =>
    rw [hurl] at h
    cases hmethod : m.probeMethod with
    | error e' =>
      rw [hmethod] at h
      obtain rfl : e' = e := Except.error.inj h
      unfold Monitor.probeMethod at hmethod
      split at hmethod
      · nomatch hmethod
      · cases hmethod
        rfl
    | ok method =>
      rw [hmethod] at h
      cases htoken : m.resolvedToken environment with
      | error e' =>
        rw [htoken] at h
        obtain rfl : e' = e := Except.error.inj h
        obtain ⟨name, rfl⟩ := eq_variableMissing_of_resolve htoken
        rfl
      | ok token =>
        rw [htoken] at h
        nomatch h

/-- A preparation for probes: what it refuses is a matter of configuration, and what it lets pass is
valid. -/
inductive Prepares : Except SettingsError AgentConfig → Prop
  | refused {e : SettingsError} (h : (Diagnostic.ofSettings e).exitCode = 3) : Prepares (.error e)
  | ready {agent : AgentConfig} {target : Endpoint} (h : agent.validate = .ok target) :
    Prepares (.ok agent)

theorem prepares_toProbeAgent : Prepares (s.toProbeAgent environment) := by
  cases hrequest : s.monitor.request environment with
  | error e =>
    rw [toProbeAgent_of_error hrequest]
    exact .refused (exitCode_of_request hrequest)
  | ok request =>
    by_cases hfound : s.wifi.SecretFound environment
    · obtain ⟨agent, -, -, hagent⟩ := toProbeAgent_of_found hrequest hfound
      rw [hagent]
      cases hvalid : agent.validate with
      | error fault => exact .refused (AgentConfig.exitCode_of_refused hvalid)
      | ok target => exact .ready hvalid
    · simp only [Wifi.SecretFound, not_forall, Option.not_isSome_iff_eq_none] at hfound
      obtain ⟨name, hname, hmissing⟩ := hfound
      rw [toProbeAgent_of_missing hrequest hname hmissing]
      exact .refused rfl

theorem exitCode_of_load {file : String} {content : Option (List UInt8)}
    (h : load file content environment = .error e) : (Diagnostic.ofSettings e).exitCode = 3 := by
  unfold load at h
  split at h
  · cases h
    rfl
  · split at h
    · cases h
      rfl
    · nomatch h

end Settings

/-- The exit status of a failed probe, by the class of the failure. A target that is no URL is not
among them. -/
def ProbeError.exitStatus? : ProbeError → Option Nat
  | .resolution .. | .connect .. | .tls _ | .io .. => some 7
  | .timeout .. => some 8
  | .protocol _ => some 1
  | .malformedUrl _ => none

theorem ProbeError.exitStatus?_of_ne {e : ProbeError} (h : ∀ fault, e ≠ .malformedUrl fault) :
    e.exitStatus? = some (Diagnostic.ofAgent (.ofProbe e)).exitCode := by
  cases e with
  | malformedUrl fault => exact absurd rfl (h fault)
  | _ => rfl

theorem ProbeError.exitStatus?_ne_three (e : ProbeError) : e.exitStatus? ≠ some 3 := by
  cases e <;> simp [exitStatus?]

namespace CommandLine
variable {g : Given} {s : Surroundings} {e : SettingsError} {agent : AgentConfig}
  {line : StatusLine} {fault : ProbeError}

def Given.wire (g : Given) (s : Surroundings) : List Net.WireEvent :=
  match g.probe s with
  | .error _ => []
  | .ok probed => probed.wire

theorem Given.prepares_probeAgent (g : Given) (s : Surroundings) :
    Settings.Prepares (g.probeAgent s) := by
  rw [probeAgent]
  cases hsettings : g.settings s with
  | error e => exact .refused (Settings.exitCode_of_load (settings_eq_error_iff.1 hsettings))
  | ok settings =>
    simp only [bind, Except.bind]
    exact Settings.prepares_toProbeAgent

theorem Given.probe_of_error (h : g.probeAgent s = .error e) : g.probe s = .error e := by
  rw [probe, h]
  rfl

theorem Given.probe_of_ok (h : g.probeAgent s = .ok agent) :
    g.probe s = .ok (Probe.run agent.probe agent.transport s.network) := by
  rw [probe, h]
  rfl

theorem probeOutcome_of_error (h : g.probeAgent s = .error e) :
    probeOutcome g s = .failed (.ofSettings e) := by
  rw [probeOutcome, Given.probe_of_error h]

theorem probeOutcome_of_line (h : g.probeAgent s = .ok agent)
    (hline : (Probe.run agent.probe agent.transport s.network).result = .ok line) :
    probeOutcome g s = .printed (line.text ++ "\n") := by
  simp only [probeOutcome, Given.probe_of_ok h, hline]

theorem probeOutcome_of_fault (h : g.probeAgent s = .ok agent)
    (hfault : (Probe.run agent.probe agent.transport s.network).result = .error fault) :
    probeOutcome g s = .failed (.ofAgent (.ofProbe fault)) := by
  simp only [probeOutcome, Given.probe_of_ok h, hfault]

/-- A probe that fails was made to a URL, so that the class of its failure has an exit status. -/
theorem exitStatus?_of_fault (h : g.probeAgent s = .ok agent)
    (hfault : (Probe.run agent.probe agent.transport s.network).result = .error fault) :
    fault.exitStatus? = some (probeOutcome g s).exit := by
  have hprepared := g.prepares_probeAgent s
  rw [h] at hprepared
  obtain _ | ⟨hvalid⟩ := hprepared
  rw [probeOutcome_of_fault h hfault]
  apply ProbeError.exitStatus?_of_ne
  intro e heq
  rw [heq] at hfault
  exact AgentConfig.run_ne_malformedUrl hvalid s.network e hfault

theorem exit_probeOutcome_eq_three_iff :
    (probeOutcome g s).exit = 3 ↔ ∃ e, g.probeAgent s = .error e := by
  cases hagent : g.probeAgent s with
  | error e =>
    have hprepared := g.prepares_probeAgent s
    rw [hagent] at hprepared
    obtain ⟨hrefused⟩ := hprepared
    have hexit : (probeOutcome g s).exit = 3 := by
      rw [probeOutcome_of_error hagent]
      exact hrefused
    exact ⟨fun _ => ⟨e, rfl⟩, fun _ => hexit⟩
  | ok agent =>
    refine ⟨fun hexit => ?_, nofun⟩
    cases hresult : (Probe.run agent.probe agent.transport s.network).result with
    | ok line =>
      rw [probeOutcome_of_line hagent hresult] at hexit
      nomatch hexit
    | error fault =>
      have hstatus := exitStatus?_of_fault hagent hresult
      rw [hexit] at hstatus
      exact absurd hstatus fault.exitStatus?_ne_three

theorem stdout_probeOutcome (h : (probeOutcome g s).exit ≠ 0) : (probeOutcome g s).stdout = "" := by
  cases hagent : g.probeAgent s with
  | error e =>
    rw [probeOutcome_of_error hagent]
    rfl
  | ok agent =>
    cases hresult : (Probe.run agent.probe agent.transport s.network).result with
    | ok line =>
      rw [probeOutcome_of_line hagent hresult] at h
      exact absurd rfl h
    | error fault =>
      rw [probeOutcome_of_fault hagent hresult]
      rfl

/-- The settings do not see the network. -/
theorem probeOutcome_network (h : g.probeAgent s = .error e) (network : Net.Network) :
    probeOutcome g { s with network } = probeOutcome g s := by
  have hsame : g.probeAgent { s with network } = .error e := h
  rw [probeOutcome_of_error h, probeOutcome_of_error hsame]

/-- The exit status of a probe tells the stage that fails. It is 3 for the settings alone, and then
the network is left alone and makes no difference; a probe that is made prints its status line, or
nothing, and exits by the class of its failure. -/
theorem probe_exits (g : Given) (s : Surroundings) :
    ∃ o, Invocation.perform ⟨.probe, g⟩ s = .ended o ∧
      (o.exit = 3 ↔ ∃ e, g.probeAgent s = .error e) ∧
      (∀ e, g.probeAgent s = .error e → g.wire s = [] ∧
        ∀ network, Invocation.perform ⟨.probe, g⟩ { s with network } = .ended o) ∧
      (∀ agent, g.probeAgent s = .ok agent →
        match (Probe.run agent.probe agent.transport s.network).result with
        | .ok line => o = ⟨0, line.text ++ "\n", ""⟩
        | .error e => e.exitStatus? = some o.exit) ∧
      (o.exit ≠ 0 → o.stdout = "") ∧
      ∀ e : ProbeError, (AgentError.ofProbe e).kind? = some e.kind := by
  refine ⟨probeOutcome g s, rfl, exit_probeOutcome_eq_three_iff, fun e herror => ⟨?_, ?_⟩,
    fun agent hagent => ?_, stdout_probeOutcome, AgentError.kind?_ofProbe⟩
  · rw [Given.wire, Given.probe_of_error herror]
  · intro network
    exact congrArg Performed.ended (probeOutcome_network herror network)
  · cases hresult : (Probe.run agent.probe agent.transport s.network).result with
    | ok line => exact probeOutcome_of_line hagent hresult
    | error fault => exact exitStatus?_of_fault hagent hresult

end CommandLine
end Liveness
