import Liveness.Link.Error
import Liveness.Link.Status
import Liveness.Probe.Error

/-! What the agent reports about itself while it works. -/
namespace Liveness

/-- What the next step will do. -/
inductive Phase where
  | needAssociation
  | needProbe
deriving DecidableEq, Repr

def Phase.label : Phase → String
  | .needAssociation => "need_association"
  | .needProbe => "need_probe"

inductive Level where
  | info
  | warn
  | error
deriving DecidableEq, Repr

inductive Field where
  | text (s : String)
  | number (n : Int)
deriving DecidableEq, Repr

inductive Notice where
  | openNetwork (ssid : String)
  | activating (ssid : String)
  | activationFailed (error : String)
  | associated (polls : Nat)
  | rejected (status : Int)
  | linkUp (ssid : String) (address : Option String)
  | phaseChange (source target : Phase)
  | started (url : String)
  | stopped (probes : Nat)
  | stepFailed (phase : Phase) (kind : FailureKind) (streak : Nat) (error : String)
  | stillFailing (phase : Phase) (kind : FailureKind) (streak : Nat) (error : String)
  | reachable (status : String) (afterFailures : Nat)
  | ledStuck (path error : String)
  | interfaceUnknown (error : String)
  | statusUnknown (error : String)
  | unreadableState (raw : String)
deriving DecidableEq, Repr

namespace Notice

def level : Notice → Level
  | .activating _ | .associated _ | .linkUp .. | .phaseChange .. | .started _ | .stopped _
  | .reachable .. => .info
  | .openNetwork _ | .activationFailed _ | .rejected _ | .stepFailed .. | .ledStuck ..
  | .interfaceUnknown _ | .statusUnknown _ | .unreadableState _ => .warn
  | .stillFailing .. => .error

def message : Notice → String
  | .openNetwork _ => "no wifi secret set, joining as open network"
  | .activating _ => "activating radio"
  | .activationFailed _ => "radio activation failed"
  | .associated _ => "associated"
  | .rejected _ => "association failed"
  | .linkUp .. => "link up"
  | .phaseChange .. => "phase change"
  | .started _ => "supervisor started"
  | .stopped _ => "supervisor stopped"
  | .stepFailed .. => "step failed"
  | .stillFailing .. => "still failing"
  | .reachable .. => "monitor reachable"
  | .ledStuck .. => "cannot switch LED"
  | .interfaceUnknown _ => "cannot determine wifi interface"
  | .statusUnknown _ => "link status query failed"
  | .unreadableState _ => "unparseable device state"

private def failureFields (phase : Phase) (kind : FailureKind) (streak : Nat) (error : String) :
    List (String × Field) :=
  [("phase", .text phase.label), ("kind", .text kind.label), ("streak", .number streak),
    ("error", .text error)]

def fields : Notice → List (String × Field)
  | .openNetwork ssid | .activating ssid => [("ssid", .text ssid)]
  | .activationFailed error | .interfaceUnknown error | .statusUnknown error =>
    [("error", .text error)]
  | .associated polls => [("polls", .number polls)]
  | .rejected status => [("status", .number status), ("label", .text (Link.label status))]
  | .linkUp ssid address => [("ssid", .text ssid), ("address", .text (address.getD "unknown"))]
  | .phaseChange source target => [("from", .text source.label), ("to", .text target.label)]
  | .started url => [("url", .text url)]
  | .stopped probes => [("probes", .number probes)]
  | .stepFailed phase kind streak error | .stillFailing phase kind streak error =>
    failureFields phase kind streak error
  | .reachable status afterFailures =>
    [("status", .text status), ("after_failures", .number afterFailures)]
  | .ledStuck path error => [("path", .text path), ("error", .text error)]
  | .unreadableState raw => [("raw", .text raw)]

/-- Notices that are no warnings are shown where more than the usual is asked for. -/
def isShown (verbosity : Nat) (n : Notice) : Bool := n.level ≠ .info || 0 < verbosity

def line (n : Notice) : String :=
  let level := match n.level with
    | .info => "INFO"
    | .warn => "WARN"
    | .error => "ERROR"
  let shown : Field → String
    | .text s => s
    | .number i => toString i
  " ".intercalate (level :: n.message :: n.fields.map fun (k, v) => k ++ "=" ++ shown v)

end Notice
end Liveness
