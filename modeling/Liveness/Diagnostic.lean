import Liveness.Settings.Error

/-! Errors as the command line reports them: a text, how the process exits, and what may help. -/
namespace Liveness

inductive Diagnostic where
  | configuration (message : String)
  | malformedUrl (e : MalformedUrl)
  | resolution (host : String)
  | connection (reason : String)
  | timeout (stage : Stage) (afterMillis : Nat)
  | protocol (message : String)
  | association (message : String)
  | io (fault : Net.Fault)
deriving DecidableEq, Repr

namespace Diagnostic

def message : Diagnostic → String
  | .configuration m => "Invalid configuration: " ++ m
  | .malformedUrl e => "Malformed monitor URL '" ++ e.url ++ "': " ++ e.fault.message
  | .resolution host => "Cannot resolve " ++ host
  | .connection reason => "Could not reach the monitor: " ++ reason
  | .timeout stage after => stage.name ++ " timed out after " ++ toString after ++ "ms"
  | .protocol m => "Unexpected reply from the monitor: " ++ m
  | .association m => "Association failed: " ++ m
  | .io fault => fault.message

def exitCode : Diagnostic → Nat
  | .configuration _ | .malformedUrl _ => 3
  | .resolution _ | .connection _ => 7
  | .timeout .. => 8
  | .protocol _ | .association _ | .io _ => 1

def code? : Diagnostic → Option String
  | .configuration _ => some "upbeat::config"
  | .malformedUrl _ => some "upbeat::malformed_url"
  | .resolution _ => some "upbeat::resolution"
  | .connection _ => some "upbeat::connection_failed"
  | .timeout .. => some "upbeat::timeout"
  | .protocol _ => some "upbeat::protocol"
  | .association _ => some "upbeat::association"
  | .io _ => none

def help? : Diagnostic → Option String
  | .configuration _ => some <|
      "Fix the setting in the config file (see: upbeat config path)\n" ++
      "or the matching UPBEAT_* environment variable."
  | .malformedUrl _ => some
      "Expected scheme://host[:port][/path], e.g. https://monitor.example.dev"
  | .resolution _ => some "Check the monitor host name and this device's DNS settings."
  | .connection _ => some <|
      "Check that the monitor is running and reachable from this device.\n" ++
      "For https monitors, --insecure (-k) is required."
  | .timeout .. => some
      "Increase the timeout with --timeout or check the monitor's responsiveness."
  | .protocol _ | .association _ | .io _ => none

def ofAgent : AgentError → Diagnostic
  | .malformedUrl e => .malformedUrl e
  | .resolution host => .resolution host
  | .connection reason => .connection reason
  | .timeout stage after => .timeout stage after
  | .protocol m => .protocol m
  | .association m => .association m
  | .setup fault => .configuration fault.message

def ofSettings : SettingsError → Diagnostic
  | .agent e => ofAgent e
  | e => .configuration e.message

end Diagnostic
end Liveness
