import Liveness.Agent.Error
import Liveness.Link.Radio
import Liveness.Net.Connection
import Liveness.Probe

/-! What the agent needs to run, and the configurations that it refuses: those from which the loop
could never recover. -/
namespace Liveness

inductive LinkBackend where
  | networkManager (interface : Option String)
  | fixed
deriving DecidableEq, Repr

def LinkBackend.needsCredentials : LinkBackend → Bool
  | .networkManager _ => true
  | .fixed => false

/-- The named waits, one per class of outcome. -/
structure Backoff where
  activationError : Duration
  associationFailed : Duration
  probeFailed : Duration
  probeInterval : Duration
  pollInterval : Duration
deriving DecidableEq, Repr

namespace Backoff

def standard : Backoff :=
  ⟨.ofSecs 4, .ofSecs 10, .ofSecs 4, .ofSecs 1, .ofSecs 1⟩

/-- No waits at all. A configuration with them is refused. -/
def immediate : Backoff := ⟨.zero, .zero, .zero, .zero, .zero⟩

/-- The waits after failures, by their names in the configuration. -/
def afterFailures (b : Backoff) : List (String × Duration) :=
  [("activation_error", b.activationError), ("association_failed", b.associationFailed),
    ("probe_failed", b.probeFailed)]

end Backoff

structure AgentConfig where
  link : LinkBackend
  network : Credentials
  probe : ProbeRequest
  transport : Transport
  backoff : Backoff
deriving DecidableEq, Repr

namespace AgentConfig

def ssidPresent (c : AgentConfig) : Bool :=
  !c.link.needsCredentials || !Text.isBlankText c.network.ssid

/-- Accepts a configuration and gives the target of its probes, or reports its first fault. -/
def validate (c : AgentConfig) : Except AgentError Endpoint :=
  if !c.ssidPresent then .error (.setup .ssidMissing)
  else match c.probe.endpoint with
    | .error e => .error (.malformedUrl e)
    | .ok target =>
      if (c.probe.token.getD "").toList.any Text.isControl then .error (.setup .tokenControl)
      else if target.scheme = .secure ∧ c.transport.tls = .disabled then
        .error (.setup (.insecureRefused target))
      else if c.transport.timeout.isZero then .error (.setup .timeoutZero)
      else match c.backoff.afterFailures.find? (·.2.isZero) with
        | some (name, _) => .error (.setup (.waitZero name))
        | none => .ok target

/-- What validation reports on the way: a network joined without a secret. -/
def notices (c : AgentConfig) : List Notice :=
  if c.link.needsCredentials && c.ssidPresent && c.network.secret.isEmpty then
    [.openNetwork c.network.ssid]
  else []

end AgentConfig
end Liveness
