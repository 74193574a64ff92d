import Liveness.Proofs.Agent.Agreement
import Liveness.Proofs.Net.ServerName

/-! What becomes of the probes of an accepted configuration whose target is secure: the name of the
host decides, once and for all attempts, whether they get as far as a connection. -/
namespace Liveness.AgentConfig
open Net
variable {c : AgentConfig} {target : Endpoint}

/-- An accepted secure target lacks nothing for TLS but, perhaps, a name. -/
theorem tlsFault?_of_accepted (hvalid : c.validate = .ok target) (hsecure : target.scheme = .secure) :
    Connection.tlsFault? target.scheme.isSecure target.host c.transport =
      if isServerName target.host then none else some (.serverName target.host) := by
  obtain ⟨-, -, -, htrust, -⟩ := validate_eq_ok_iff.1 hvalid
  cases htls : c.transport.tls with
  | disabled => exact absurd ⟨hsecure, htls⟩ htrust
  | acceptAny =>
    rw [Connection.tlsFault?, hsecure, htls]
    rfl

theorem isHostChar_of_accepted (hvalid : c.validate = .ok target) :
    ∀ x ∈ target.host.toList, Endpoint.isHostChar x := by
  obtain ⟨-, htarget, -⟩ := validate_eq_ok_iff.1 hvalid
  exact (Endpoint.wellFormed_of_join htarget).isHostChar_of_mem

/-- Without a server name no attempt leaves the host. -/
theorem run_of_unnamed (hvalid : c.validate = .ok target) (hsecure : target.scheme = .secure)
    (hname : isServerName target.host = false) (network : Network) :
    Probe.run c.probe c.transport network =
      ⟨.error (if (network.lookup target.host target.port).isSome
        then .tls (.serverName target.host) else .resolution target.host target.port), []⟩ := by
  obtain ⟨-, htarget, -⟩ := validate_eq_ok_iff.1 hvalid
  have hfault := tlsFault?_of_accepted hvalid hsecure
  rw [hname, if_neg Bool.false_ne_true] at hfault
  cases hlookup : network.lookup target.host target.port with
  | none => exact Probe.run_of_unresolved htarget hlookup
  | some address => exact Probe.run_of_tlsFault? htarget hlookup hfault

theorem run_ne_serverName (hvalid : c.validate = .ok target) (hsecure : target.scheme = .secure)
    (hname : isServerName target.host = true) (network : Network) (name : String) :
    (Probe.run c.probe c.transport network).result ≠ .error (.tls (.serverName name)) := by
  obtain ⟨-, htarget, -⟩ := validate_eq_ok_iff.1 hvalid
  have hfault := tlsFault?_of_accepted hvalid hsecure
  rw [hname, if_pos rfl] at hfault
  intro herror
  have hcause := Probe.run_eq_error htarget herror
  simp [ProbeError.isExchange, ProbeError.isStream, hfault] at hcause

/-- A secure target that is accepted has a server name if its host is a dotted quad or has the form of
a domain name. With one, no attempt fails for want of it. Without one, no attempt ever gets as far as
a connection. -/
theorem attempts_named (hvalid : c.validate = .ok target) (hsecure : target.scheme = .secure)
    (first : Network) (networks : List Network) :
    (isServerName target.host = true ↔
      (readDotted? target.host.toList).isSome ∨ Nameable target.host.toList) ∧
    ∀ a ∈ (HttpProber.ofConfig c first).attempts networks,
      (isServerName target.host = true →
        ∀ name, a.result ≠ .error (.tls (.serverName name))) ∧
      (isServerName target.host = false → a.wire = [] ∧
        a.result = .error (if (a.network.lookup target.host target.port).isSome
          then .tls (.serverName target.host) else .resolution target.host target.port)) := by
  refine ⟨isServerName_iff (isHostChar_of_accepted hvalid), fun a ha => ?_⟩
  obtain ⟨-, hresult, hwire⟩ := HttpProber.mem_attempts ha
  rw [hresult, hwire]
  constructor
  · intro hname name
    exact run_ne_serverName hvalid hsecure hname a.network name
  · intro hname
    have hrun := run_of_unnamed hvalid hsecure hname a.network
    exact ⟨congrArg Probe.Probed.wire hrun, congrArg Probe.Probed.result hrun⟩

/-- A name that ends in a dot, and a part that begins with a hyphen. -/
theorem attempts_named_hyphen :
    let network : Network := ⟨fun _ port => some ⟨.v4 0x0A000001, port, 0⟩, fun _ => .unreachable .refused⟩
    let config (url : String) : AgentConfig :=
      ⟨.fixed, ⟨"", ""⟩, ⟨url, livenessPath, .get, none⟩, ⟨.acceptAny, .ofSecs 3⟩, .standard⟩
    let prober (url : String) := HttpProber.ofConfig (config url) network
    let attempt (url : String) : ProbeAttempt := ⟨network, (Prober.probe (prober url)).value,
      (Probe.run (config url).probe (config url).transport network).wire⟩
    let named : Endpoint := ⟨.secure, "monitor_1.lan.", 443, "api/v1/up"⟩
    let unnamed : Endpoint := ⟨.secure, "monitor.-lan", 8443, "api/v1/up"⟩
    (∀ url, attempt url ∈ (prober url).attempts [network]) ∧
      (config "https://monitor_1.lan.").validate = .ok named ∧
      isServerName named.host = true ∧
      (∀ name, (attempt "https://monitor_1.lan.").result ≠ .error (.tls (.serverName name))) ∧
      (config "https://monitor.-lan:8443/").validate = .ok unnamed ∧
      ¬ Nameable unnamed.host.toList ∧
      (attempt "https://monitor.-lan:8443/").result =
        .error (.tls (.serverName "monitor.-lan")) := by
  intro network config prober attempt named unnamed
  have hmem (url : String) : attempt url ∈ (prober url).attempts [network] := by
    rw [HttpProber.attempts]
    exact List.mem_cons_self
  have hnamed : (config "https://monitor_1.lan.").validate = .ok named := by decide +kernel
  have hunnamed : (config "https://monitor.-lan:8443/").validate = .ok unnamed := by decide +kernel
  have hname : isServerName named.host = true := by decide +kernel
  have hnone : isServerName unnamed.host = false := by decide +kernel
  have hshape := (attempts_named hunnamed rfl network [network]).1
  have hfirst := ((attempts_named hnamed rfl network [network]).2 _ (hmem _)).1 hname
  have hsecond := ((attempts_named hunnamed rfl network [network]).2 _ (hmem _)).2 hnone
  refine ⟨hmem, hnamed, hname, hfirst, hunnamed, fun hform => ?_, hsecond.2⟩
  rw [hshape.2 (.inr hform)] at hnone
  cases hnone

/-- An address in two parts is accepted and found, but no handshake can name it: every attempt of this
configuration fails alike. -/
theorem accepted_without_name :
    let network : Network := ⟨lookupNumeric, fun _ => .unreachable .refused⟩
    let config : AgentConfig := ⟨.fixed, ⟨"", ""⟩, ⟨"https://127.1", livenessPath, .get, none⟩,
      ⟨.acceptAny, .ofSecs 3⟩, .standard⟩
    let target : Endpoint := ⟨.secure, "127.1", 443, "api/v1/up"⟩
    config.validate = .ok target ∧ isServerName target.host = false ∧
      Probe.run config.probe config.transport network =
        ⟨.error (.tls (.serverName "127.1")), []⟩ := by
  intro network config target
  have hvalid : config.validate = .ok target := by decide +kernel
  have hname : isServerName target.host = false := by decide +kernel
  have hfound : (network.lookup target.host target.port).isSome = true := by decide +kernel
  refine ⟨hvalid, hname, ?_⟩
  rw [run_of_unnamed hvalid rfl hname, if_pos hfound]

end Liveness.AgentConfig
