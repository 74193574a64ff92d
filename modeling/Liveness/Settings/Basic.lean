import Liveness.Agent.Config
import Liveness.Indicator

/-! Settings: what a user configures, with the values that hold where nothing is given. -/
namespace Liveness

namespace Settings

inductive Backend where
  | networkManager
  | fixed
deriving DecidableEq, Repr

def Backend.name : Backend → String
  | .networkManager => "networkmanager"
  | .fixed => "static"

/-- The wireless network. The secret is given as it is, or by the name of a variable. -/
structure Wifi where
  backend : Backend
  ssid : String
  secret : Option String
  secretVariable : Option String
  interface : Option String
deriving DecidableEq, Repr

/-- The monitor. The token is given as it is, or by the name of a variable; the timeout in
seconds. -/
structure Monitor where
  url : Option String
  path : String
  method : String
  token : Option String
  tokenVariable : Option String
  insecure : Bool
  timeout : UInt64
deriving DecidableEq, Repr

/-- The waits, in seconds. -/
structure Timing where
  activationError : UInt64
  associationFailed : UInt64
  probeFailed : UInt64
  probeInterval : UInt64
  pollInterval : UInt64
deriving DecidableEq, Repr

def Wifi.standard : Wifi := ⟨.networkManager, "", none, none, none⟩

def Monitor.standard : Monitor := ⟨none, livenessPath, "GET", none, none, false, 3⟩

def Timing.standard : Timing :=
  let secs (d : Duration) : UInt64 := UInt64.ofNat d.secs
  let b := Backoff.standard
  ⟨secs b.activationError, secs b.associationFailed, secs b.probeFailed, secs b.probeInterval,
    secs b.pollInterval⟩

def seconds (n : UInt64) : Duration := .ofSecs n.toNat

def Timing.backoff (t : Timing) : Backoff :=
  ⟨seconds t.activationError, seconds t.associationFailed, seconds t.probeFailed,
    seconds t.probeInterval, seconds t.pollInterval⟩

end Settings

structure Settings where
  wifi : Settings.Wifi
  monitor : Settings.Monitor
  timing : Settings.Timing
  led : Option String
deriving DecidableEq, Repr

namespace Settings

def standard : Settings := ⟨.standard, .standard, .standard, none⟩

def placeholder : String := "********"

def redacted (s : Settings) : Settings :=
  { s with
    wifi := { s.wifi with secret := s.wifi.secret.map fun _ => placeholder }
    monitor := { s.monitor with token := s.monitor.token.map fun _ => placeholder } }

def target (s : Settings) : IndicatorTarget := .ofSetting s.led

theorem Timing.backoff_standard : Timing.standard.backoff = .standard := by decide

end Settings
end Liveness
