import Liveness.Agent.Config
import Mathlib.Data.Char

/-! When a configuration is accepted. -/
namespace Liveness.AgentConfig

private theorem token_any_eq_false {token : Option String} :
    (token.getD "").toList.any Text.isControl = false ↔
      ∀ t, token = some t → ∀ x ∈ t.toList, Text.isControl x = false := by
  cases token <;> simp

private theorem find?_isZero_eq_none {waits : List (String × Duration)} :
    waits.find? (·.2.isZero) = none ↔ ∀ wait ∈ waits, wait.2.isZero = false := by
  simp

/-- Exactly these conditions make a configuration acceptable. What is given back is the target of
its probes. -/
theorem validate_eq_ok_iff {c : AgentConfig} {target : Endpoint} :
    c.validate = .ok target ↔
      c.ssidPresent ∧ c.probe.endpoint = .ok target ∧
        (∀ t, c.probe.token = some t → ∀ x ∈ t.toList, Text.isControl x = false) ∧
        ¬ (target.scheme = .secure ∧ c.transport.tls = .disabled) ∧
        c.transport.timeout.isZero = false ∧
        ∀ wait ∈ c.backoff.afterFailures, wait.2.isZero = false := by
  rw [← token_any_eq_false, ← find?_isZero_eq_none]
  unfold validate
  constructor
  · intro h
    split at h
    · nomatch h
    next hssid =>
    split at h
    · nomatch h
    next e he =>
    split at h
    · nomatch h
    next htoken =>
    split at h
    · nomatch h
    next htls =>
    split at h
    · nomatch h
    next htimeout =>
    split at h
    · nomatch h
    next hwaits =>
    obtain rfl := Except.ok.inj h
    exact ⟨by simpa using hssid, he, by simpa using htoken, htls, by simpa using htimeout, hwaits⟩
  · rintro ⟨hssid, he, htoken, htls, htimeout, hwaits⟩
    simp only [hssid, he, htoken, htls, htimeout, hwaits]
    rfl

theorem validate_eq_malformedUrl_iff {c : AgentConfig} {e : MalformedUrl} :
    c.validate = .error (.malformedUrl e) ↔ c.ssidPresent ∧ c.probe.endpoint = .error e := by
  unfold validate
  constructor
  · intro h
    split at h
    · nomatch h
    next hssid =>
    split at h
    next fault he =>
      obtain rfl := AgentError.malformedUrl.inj (Except.error.inj h)
      exact ⟨by simpa using hssid, he⟩
    next target he =>
      split_ifs at h
      · nomatch h
      · nomatch h
      · nomatch h
      · split at h
        · nomatch h
        · nomatch h
  · rintro ⟨hssid, he⟩
    simp only [hssid, he]
    rfl

/-- The refusal of a secure target comes after the checks of the name, the URL and the token. -/
theorem validate_eq_insecureRefused_iff {c : AgentConfig} {target : Endpoint} :
    c.validate = .error (.setup (.insecureRefused target)) ↔
      c.ssidPresent ∧ c.probe.endpoint = .ok target ∧
        (∀ t, c.probe.token = some t → ∀ x ∈ t.toList, Text.isControl x = false) ∧
        target.scheme = .secure ∧ c.transport.tls = .disabled := by
  rw [← token_any_eq_false]
  unfold validate
  constructor
  · intro h
    split at h
    · nomatch h
    next hssid =>
    split at h
    · nomatch h
    next found he =>
    split_ifs at h with htoken htls
    · nomatch h
    · obtain rfl := SetupFault.insecureRefused.inj (AgentError.setup.inj (Except.error.inj h))
      exact ⟨by simpa using hssid, he, by simpa using htoken, htls⟩
    · nomatch h
    · split at h
      · nomatch h
      · nomatch h
  · rintro ⟨hssid, he, htoken, htls⟩
    simp only [hssid, he, htoken, htls]
    rfl

end Liveness.AgentConfig
