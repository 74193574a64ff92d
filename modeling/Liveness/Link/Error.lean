import Liveness.Net.Fault

/-! What can go wrong while a radio is driven. -/
namespace Liveness

inductive ExitStatus where
  | code (n : Nat)
  | signal (n : Nat)
deriving DecidableEq, Repr

namespace ExitStatus

def success (s : ExitStatus) : Bool := s == .code 0

/-- The names of the signals, from number one. Numbers above these have no name. -/
def signalNames : List String := [
  "SIGHUP", "SIGINT", "SIGQUIT", "SIGILL", "SIGTRAP", "SIGABRT", "SIGBUS", "SIGFPE", "SIGKILL",
  "SIGUSR1", "SIGSEGV", "SIGUSR2", "SIGPIPE", "SIGALRM", "SIGTERM", "SIGSTKFLT", "SIGCHLD",
  "SIGCONT", "SIGSTOP", "SIGTSTP", "SIGTTIN", "SIGTTOU", "SIGURG", "SIGXCPU", "SIGXFSZ",
  "SIGVTALRM", "SIGPROF", "SIGWINCH", "SIGIO", "SIGPWR", "SIGSYS"]

def signalName? : Nat → Option String
  | 0 => none
  | n + 1 => signalNames[n]?

def text : ExitStatus → String
  | .code n => "exit status: " ++ toString n
  | .signal n =>
    match signalName? n with
    | some name => "signal: " ++ toString n ++ " (" ++ name ++ ")"
    | none => "signal: " ++ toString n

end ExitStatus

inductive ActivationFault where
  | noDevice
  | exited (program : String) (status : ExitStatus) (complaint : String)
  | stated (text : String)
deriving DecidableEq, Repr

def ActivationFault.message : ActivationFault → String
  | .noDevice => "no wifi device found"
  | .exited program status complaint =>
    program ++ " exited with " ++ status.text ++ ": " ++ complaint
  | .stated text => text

inductive RadioError where
  | activation (fault : ActivationFault)
  | command (program : String) (fault : Net.Fault)
  | timeout (program : String) (secs : Nat)
deriving DecidableEq, Repr

def RadioError.message : RadioError → String
  | .activation fault => "radio activation failed: " ++ fault.message
  | .command program fault => "failed to run " ++ program ++ ": " ++ fault.message
  | .timeout program secs => program ++ " did not finish within " ++ toString secs ++ "s"

end Liveness
