import Liveness.Settings.Basic
import Liveness.Settings.Error
import Liveness.Toml.Printer

/-! Settings as a document, in which absent ones are left out. -/
namespace Liveness.Settings
open Toml

def optional (key : String) : Option String → List (String × Written)
  | none => []
  | some s => [(key, .text s)]

def Wifi.written (w : Wifi) : WrittenTable :=
  ⟨"wifi", [("backend", .text w.backend.name), ("ssid", .text w.ssid)] ++
    optional "psk" w.secret ++ optional "psk_env" w.secretVariable ++
    optional "interface" w.interface⟩

def Monitor.written (m : Monitor) : WrittenTable :=
  ⟨"monitor", optional "url" m.url ++ [("path", .text m.path), ("method", .text m.method)] ++
    optional "token" m.token ++ optional "token_env" m.tokenVariable ++
    [("insecure", .boolean m.insecure), ("timeout", .integer m.timeout.toNat)]⟩

def Timing.written (t : Timing) : WrittenTable :=
  ⟨"timing", [("activation_error", .integer t.activationError.toNat),
    ("association_failed", .integer t.associationFailed.toNat),
    ("probe_failed", .integer t.probeFailed.toNat),
    ("probe_interval", .integer t.probeInterval.toNat),
    ("poll_interval", .integer t.pollInterval.toNat)]⟩

def written (s : Settings) : List WrittenTable :=
  [s.wifi.written, s.monitor.written, s.timing.written, ⟨"indicator", optional "led" s.led⟩]

def maxInteger : Nat := 0x7FFFFFFFFFFFFFFF

def numbers (s : Settings) : List UInt64 :=
  [s.monitor.timeout, s.timing.activationError, s.timing.associationFailed, s.timing.probeFailed,
    s.timing.probeInterval, s.timing.pollInterval]

def render (s : Settings) : Except SettingsError String :=
  if s.numbers.any (maxInteger < ·.toNat) then .error .notWritable
  else .ok (writeDocument s.redacted.written)

end Liveness.Settings
