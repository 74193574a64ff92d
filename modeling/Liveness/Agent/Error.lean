import Liveness.Link.Error
import Liveness.Probe.Error
import Liveness.Text.Numeral

/-! The failures of the agent as a whole. Probe and radio failures fold into them, so that every
failure at run time has a kind. -/
namespace Liveness

/-- Why a configuration could never work. -/
inductive SetupFault where
  | ssidMissing
  | tokenControl
  | insecureRefused (target : Endpoint)
  | timeoutZero
  | waitZero (name : String)
  | stated (text : String)
deriving DecidableEq, Repr

def SetupFault.message : SetupFault → String
  | .ssidMissing => "wifi network name (ssid) is not set"
  | .tokenControl => "monitor token contains control characters"
  | .insecureRefused target =>
    target.display ++ " uses https but certificate verification is unavailable; " ++
      "set monitor.insecure = true to accept unverified certificates"
  | .timeoutZero => "transport timeout must be greater than zero"
  | .waitZero name => "timing." ++ name ++ " must be greater than zero"
  | .stated text => text

inductive AgentError where
  | malformedUrl (e : MalformedUrl)
  | resolution (host : String)
  | connection (reason : String)
  | timeout (stage : Stage) (afterMillis : Nat)
  | protocol (message : String)
  | association (message : String)
  | setup (fault : SetupFault)
deriving DecidableEq, Repr

namespace AgentError

def message : AgentError → String
  | .malformedUrl e => e.message
  | .resolution host => "Cannot resolve " ++ host
  | .connection reason => "Cannot reach monitor: " ++ reason
  | .timeout stage after => stage.name ++ " timed out after " ++ toString after ++ "ms"
  | .protocol message => "Protocol error: " ++ message
  | .association message => "Association failed: " ++ message
  | .setup fault => "Configuration error: " ++ fault.message

/-- The kind of a failure at run time; a configuration that could never work has none. -/
def kind? : AgentError → Option FailureKind
  | .malformedUrl _ => some .malformedUrl
  | .resolution _ => some .resolution
  | .connection _ => some .connect
  | .timeout .. => some .timeout
  | .protocol _ => some .protocol
  | .association _ => some .association
  | .setup _ => none

/-- A failed probe. Its duration is kept in whole milliseconds of 64 bits. -/
def ofProbe : ProbeError → AgentError
  | .malformedUrl e => .malformedUrl e
  | .resolution host port => .resolution (host ++ ":" ++ toString port.toNat)
  | .connect peer fault => .connection ("connect to " ++ peer.text ++ ": " ++ fault.message)
  | .tls fault => .connection ("TLS: " ++ fault.message)
  | .io stage fault => .connection (stage.name ++ ": " ++ fault.message)
  | .timeout stage after => .timeout stage (min after.millis Text.max64)
  | .protocol fault => .protocol fault.message

def ofRadio (e : RadioError) : AgentError := .association e.message

end AgentError
end Liveness
