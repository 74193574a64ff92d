import Liveness.Proofs.Agent.Validation
import Liveness.Proofs.Probe.Attempt

/-! Validation and the probes of a configuration judge its URL, its scheme and its trust in
certificates alike, whatever the network does from one attempt to the next: what is accepted is never
refused later, and what is refused for one of these would have failed in every attempt before any
connection. -/
namespace Liveness
open Net Probe

/-- An attempt of a prober: the network as it was at that time, the result, and what went over the
wire. -/
structure ProbeAttempt where
  network : Network
  result : Except ProbeError StatusLine
  wire : List WireEvent

namespace HttpProber

def ofConfig (c : AgentConfig) (network : Network) : HttpProber := ⟨c.probe, c.transport, network⟩

/-- One attempt after another. The network may be another one each time. -/
def attempts : HttpProber → List Network → List ProbeAttempt
  | _, [] => []
  | p, network :: later =>
    let p := { p with network }
    let answer := Prober.probe p
    ⟨network, answer.value, (Probe.run p.request p.transport network).wire⟩ ::
      attempts answer.next later

theorem probe_value (p : HttpProber) :
    (Prober.probe p).value = (Probe.run p.request p.transport p.network).result := by
  dsimp only [Prober.probe]

/-- Attempts leave the prober as it is. -/
theorem mem_attempts {p : HttpProber} {networks : List Network} {a : ProbeAttempt}
    (h : a ∈ p.attempts networks) :
    a.network ∈ networks ∧ a.result = (Probe.run p.request p.transport a.network).result ∧
      a.wire = (Probe.run p.request p.transport a.network).wire := by
  induction networks generalizing p with
  | nil => nomatch h
  | cons network later ih =>
    rw [attempts, List.mem_cons] at h
    obtain rfl | h := h
    · simp only [List.mem_cons_self, probe_value, and_self]
    · obtain ⟨hnetwork, hattempt⟩ := ih h
      exact ⟨List.mem_cons_of_mem _ hnetwork, hattempt⟩

end HttpProber

namespace AgentConfig
variable {c : AgentConfig} {target : Endpoint}

theorem tlsFault?_ne_disabled (h : ¬ (target.scheme = .secure ∧ c.transport.tls = .disabled)) :
    Connection.tlsFault? target.scheme.isSecure target.host c.transport ≠ some .disabled := by
  unfold Connection.tlsFault?
  cases hscheme : target.scheme with
  | plain => exact nofun
  | secure =>
    cases htls : c.transport.tls with
    | disabled => exact absurd ⟨hscheme, htls⟩ h
    | acceptAny =>
      dsimp only [Scheme.isSecure]
      split_ifs <;> simp

theorem tlsFault?_eq_disabled (hscheme : target.scheme = .secure)
    (htls : c.transport.tls = .disabled) :
    Connection.tlsFault? target.scheme.isSecure target.host c.transport = some .disabled := by
  simp [Connection.tlsFault?, Scheme.isSecure, hscheme, htls]

/-- What the attempts of a prober make of the verdict on its configuration. -/
theorem attempts_agree (c : AgentConfig) (first : Network) (networks : List Network) :
    ∀ a ∈ (HttpProber.ofConfig c first).attempts networks,
      (∀ target, c.validate = .ok target → Toward target c.probe a.network a.wire ∧
        (∀ e, a.result ≠ .error (.malformedUrl e)) ∧ a.result ≠ .error (.tls .disabled)) ∧
      (∀ e, c.validate = .error (.malformedUrl e) →
        a.result = .error (.malformedUrl e) ∧ a.wire = []) ∧
      (∀ target, c.validate = .error (.setup (.insecureRefused target)) →
        (a.network.lookup target.host target.port).isSome →
          a.result = .error (.tls .disabled) ∧ a.wire = []) := by
  intro a ha
  obtain ⟨-, hresult, hwire⟩ := HttpProber.mem_attempts ha
  rw [hresult, hwire]
  refine ⟨fun target hvalid => ?_, fun e hinvalid => ?_, fun target hrefused hresolved => ?_⟩
  · obtain ⟨-, htarget, -, htls, -⟩ := validate_eq_ok_iff.1 hvalid
    refine ⟨toward_of_endpoint htarget, fun e he => ?_, fun he => ?_⟩
    · have herror := run_eq_error htarget he
      simp [ProbeError.isExchange, ProbeError.isStream] at herror
    · have herror := run_eq_error htarget he
      simp [ProbeError.isExchange, ProbeError.isStream] at herror
      exact tlsFault?_ne_disabled htls herror
  · have hmalformed := (validate_eq_malformedUrl_iff.1 hinvalid).2
    have hrun : Probe.run c.probe c.transport a.network = ⟨.error (.malformedUrl e), []⟩ :=
      run_of_malformed hmalformed
    exact ⟨congrArg Probed.result hrun, congrArg Probed.wire hrun⟩
  · obtain ⟨-, htarget, -, hscheme, htls⟩ := validate_eq_insecureRefused_iff.1 hrefused
    obtain ⟨address, haddress⟩ := Option.isSome_iff_exists.1 hresolved
    have hrun := run_of_tlsFault? htarget haddress (tlsFault?_eq_disabled hscheme htls)
    exact ⟨congrArg Probed.result hrun, congrArg Probed.wire hrun⟩

/-- Three verdicts: accepted, no URL, and TLS without trust. -/
theorem attempts_agree_verdicts :
    let network : Network := ⟨lookupNumeric, fun _ => .unreachable .refused⟩
    let config (url : String) : AgentConfig :=
      ⟨.fixed, ⟨"", ""⟩, ⟨url, livenessPath, .get, none⟩, ⟨.disabled, .ofSecs 3⟩, .standard⟩
    let prober (url : String) := HttpProber.ofConfig (config url) network
    let attempt (url : String) : ProbeAttempt := ⟨network, (Prober.probe (prober url)).value,
      (Probe.run (config url).probe (config url).transport network).wire⟩
    let target : Endpoint := ⟨.plain, "10.0.0.1", 8080, "api/v1/up"⟩
    let secureTarget : Endpoint := ⟨.secure, "10.0.0.1", 443, "api/v1/up"⟩
    let malformed : MalformedUrl := ⟨"monitor/api/v1/up", .missingSeparator⟩
    (∀ url, attempt url ∈ (prober url).attempts [network]) ∧
      (config "http://10.0.0.1:8080/").validate = .ok target ∧
      Toward target (config "http://10.0.0.1:8080/").probe network
        (attempt "http://10.0.0.1:8080/").wire ∧
      (config "monitor").validate = .error (.malformedUrl malformed) ∧
      (attempt "monitor").result = .error (.malformedUrl malformed) ∧
      (config "https://10.0.0.1").validate = .error (.setup (.insecureRefused secureTarget)) ∧
      (network.lookup secureTarget.host secureTarget.port).isSome ∧
      (attempt "https://10.0.0.1").result = .error (.tls .disabled) := by
  intro network config prober attempt target secureTarget malformed
  have hmem (url : String) : attempt url ∈ (prober url).attempts [network] := by
    rw [HttpProber.attempts]
    exact List.mem_cons_self
  have hvalid : (config "http://10.0.0.1:8080/").validate = .ok target := by decide +kernel
  have hinvalid : (config "monitor").validate = .error (.malformedUrl malformed) := by
    decide +kernel
  have hrefused : (config "https://10.0.0.1").validate =
      .error (.setup (.insecureRefused secureTarget)) := by decide +kernel
  have hresolved : (network.lookup secureTarget.host secureTarget.port).isSome := by decide +kernel
  have hagree (url : String) := attempts_agree (config url) network [network] (attempt url) (hmem url)
  have hdisabled : (attempt "https://10.0.0.1").result = .error (.tls .disabled) :=
    ((hagree "https://10.0.0.1").2.2 secureTarget hrefused hresolved).1
  have haccepted : Toward target (config "http://10.0.0.1:8080/").probe network
      (attempt "http://10.0.0.1:8080/").wire :=
    ((hagree "http://10.0.0.1:8080/").1 target hvalid).1
  have hmalformed : (attempt "monitor").result = .error (.malformedUrl malformed) :=
    ((hagree "monitor").2.1 malformed hinvalid).1
  exact ⟨hmem, hvalid, haccepted, hinvalid, hmalformed, hrefused, hresolved, hdisabled⟩

end AgentConfig
end Liveness
